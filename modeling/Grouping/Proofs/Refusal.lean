import Grouping.Proofs.Room
import Grouping.Proofs.RowIdentity
import Mathlib.Data.Finset.Card

/-! # Refused saves

A validated save looks its counts up in the indexes of the table. It is refused exactly when a count
over the whole table has reached its limit.
-/

namespace Grouping

namespace Store

variable {s : Store} {r : Relation} {i : Installation} {group target : Entity}

/-- The groups of the stored relations that link the target through the relation bundle, without the
relation's own group. -/
def groupsElsewhere (s : Store) (r : Relation) : Finset Int64 :=
  ((s.relations.relations.filter fun x =>
    x.contentType = r.contentType ∧ x.key = r.key ∧ x.group ≠ r.group).map
      Relation.group).toFinset

/-- How many rows, without the relation's own, link the target to the group through the plugin. -/
def timesBeside (s : Store) (r : Relation) : Nat :=
  s.relations.relations.countP fun x =>
    x.id ≠ r.id ∧ x.group = r.group ∧ x.plugin = r.plugin ∧ x.key = r.key

def Reaches (s : Store) (i : Installation) (r : Relation) : Limit → Prop
  | .group => 0 < i.groupLimit ∧ i.groupLimit ≤ (s.groupsElsewhere r).card
  | .entity => 0 < i.entityLimit ∧ i.entityLimit ≤ s.timesBeside r

instance (s : Store) (i : Installation) (r : Relation) : DecidablePred (s.Reaches i r)
  | .group => inferInstanceAs (Decidable (_ ∧ _))
  | .entity => inferInstanceAs (Decidable (_ ∧ _))

/-- The limits that are reached, in the order of their checks. -/
def limitsReached (s : Store) (i : Installation) (r : Relation) : List Limit :=
  [Limit.group, .entity].filter (s.Reaches i r)

theorem limitsReached_ne_nil_iff : s.limitsReached i r ≠ [] ↔ ∃ l, s.Reaches i r l := by
  rw [limitsReached, ne_eq, List.filter_eq_nil_iff]
  push Not
  simp only [decide_eq_true_eq]
  constructor
  · rintro ⟨l, -, hl⟩
    exact ⟨l, hl⟩
  · rintro ⟨l, hl⟩
    exact ⟨l, by cases l <;> simp, hl⟩

theorem card_groupsElsewhere (hs : s.Sound) (r : Relation) :
    (s.groupsElsewhere r).card = (s.otherGroups r).length := by
  have hsets : s.groupsElsewhere r = (s.otherGroups r).toFinset := by
    ext g
    rw [List.mem_toFinset, mem_otherGroups_iff hs, RelationTable.groupsWith, mem_distinct,
      groupsElsewhere, List.mem_toFinset]
    simp only [List.mem_map, List.mem_filter, decide_eq_true_eq]
    constructor
    · rintro ⟨x, ⟨hx, hct, hk, hne⟩, rfl⟩
      exact ⟨⟨x, ⟨hx, hct, hk⟩, rfl⟩, hne⟩
    · rintro ⟨⟨x, ⟨hx, hct, hk⟩, rfl⟩, hne⟩
      exact ⟨x, ⟨hx, hct, hk, hne⟩, rfl⟩
  have hnodup : (s.otherGroups r).Nodup := nodup_distinct _
  rw [hsets, List.toFinset_card_of_nodup hnodup]

theorem timesBeside_eq (hs : s.Sound) (r : Relation) : s.timesBeside r = (s.counted r).length := by
  rw [timesBeside, counted, List.countP_eq_length_filter]
  congr 1
  refine List.filter_congr fun x hx => ?_
  obtain ⟨id, hrow⟩ := RelationTable.mem_relations_iff.mp hx
  have hid := hs.relations.id_eq hrow
  rw [decide_eq_decide]
  -- a draft has no row of its own, and no stored row lacks an id
  constructor
  · rintro ⟨hne, hlink⟩
    exact ⟨hlink, .inr hne⟩
  · rintro ⟨hlink, hnone | hne⟩
    · exact ⟨by simp [hid, hnone], hlink⟩
    · exact ⟨hne, hlink⟩

theorem map_violations (hs : s.Sound) (hi : s.registry.ofContentType? r.contentType = some i)
    (hg : s.loadGroup r = some group) (ht : s.loadTarget r = some target) :
    ∃ vs, (s.violations r).1 = .ok vs ∧ vs.map (fun v => (v.limit, v.path)) =
      (s.limitsReached i r).map fun l => (l, r.target.column.path) := by
  obtain ⟨label, hv⟩ := violations_eq hs hi hg ht
  refine ⟨_, hv, ?_⟩
  rw [← card_groupsElsewhere hs, ← timesBeside_eq hs]
  have hgroup : s.Reaches i r .group ↔
      0 < i.groupLimit ∧ i.groupLimit ≤ (s.groupsElsewhere r).card := .rfl
  have hentity : s.Reaches i r .entity ↔
      0 < i.entityLimit ∧ i.entityLimit ≤ s.timesBeside r := .rfl
  simp only [limitsReached, List.filter_cons, List.filter_nil, decide_eq_true_eq, ← hgroup,
    ← hentity]
  by_cases h₁ : s.Reaches i r .group <;> by_cases h₂ : s.Reaches i r .entity <;>
    simp [h₁, h₂, groupViolation, entityViolation]

theorem saveValidated_eq_refused_iff {vs : List Violation} :
    (s.saveValidated r).1 = .ok (.refused vs) ↔ (s.violations r).1 = .ok vs ∧ vs ≠ [] := by
  unfold saveValidated
  split
  · next hv => simp [hv]
  · next hv =>
    rw [hv]
    refine iff_of_false ?_ ?_
    · split <;> simp
    · rintro ⟨hok, hne⟩
      cases hok
      exact hne rfl
  · next hne hv =>
    rw [hv]
    constructor
    · rintro ⟨⟩
      exact ⟨rfl, hne⟩
    · rintro ⟨⟨⟩, -⟩
      rfl

/-- A validated save is refused exactly when a limit is reached. The refusal names the limits that are
reached, keeps all rows and reports nothing. -/
theorem saveValidated_refused_iff (h : s.Reachable)
    (hi : s.registry.ofContentType? r.contentType = some i)
    (hg : s.loadGroup r = some group) (ht : s.loadTarget r = some target) :
    ((∃ vs, (s.saveValidated r).1 = .ok (.refused vs)) ↔ ∃ l, s.Reaches i r l) ∧
    ∀ vs, (s.saveValidated r).1 = .ok (.refused vs) →
      vs.map (fun v => (v.limit, v.path)) =
        (s.limitsReached i r).map (fun l => (l, r.target.column.path)) ∧
      s.Keeps (s.saveValidated r).2 := by
  obtain ⟨vs, hvs, hmap⟩ := map_violations h.sound hi hg ht
  have hnil : vs ≠ [] ↔ ∃ l, s.Reaches i r l := by
    rw [← limitsReached_ne_nil_iff, ne_eq, ne_eq, ← List.map_eq_nil_iff, hmap, List.map_eq_nil_iff]
  constructor
  · rw [← hnil]
    constructor
    · rintro ⟨vs', hrefused⟩
      obtain ⟨hvs', hne⟩ := saveValidated_eq_refused_iff.mp hrefused
      cases hvs.symm.trans hvs'
      exact hne
    · intro hne
      exact ⟨vs, saveValidated_eq_refused_iff.mpr ⟨hvs, hne⟩⟩
  · intro vs' hrefused
    obtain ⟨hvs', -⟩ := saveValidated_eq_refused_iff.mp hrefused
    cases hvs.symm.trans hvs'
    refine ⟨hmap, keeps_of_not_saved fun r' hsaved => ?_⟩
    rw [hrefused] at hsaved
    cases hsaved

/-- The user is in two clubs, although a user may join one: plain saves ask for no limit. -/
def joinedTwice : Store :=
  ((joined.saveEntity (.group default "club" "Go")).2.save { membership with group := 2 }).2

theorem reachable_joinedTwice : joinedTwice.Reachable := (reachable_joined.saveEntity _).save _

/-- Joining the first club again would break both limits. -/
theorem saveValidated_refused_joinedTwice : ∃ vs,
    (joinedTwice.saveValidated membership).1 = .ok (.refused vs) ∧
      vs.map Violation.limit = [.group, .entity] ∧
      joinedTwice.Keeps (joinedTwice.saveValidated membership).2 := by
  obtain ⟨i, hi⟩ : ∃ i, joinedTwice.registry.ofContentType? membership.contentType = some i :=
    ⟨_, rfl⟩
  obtain ⟨group, hg⟩ : ∃ e, joinedTwice.loadGroup membership = some e := ⟨_, rfl⟩
  obtain ⟨target, ht⟩ : ∃ e, joinedTwice.loadTarget membership = some e := ⟨_, rfl⟩
  have hlimits : joinedTwice.limitsReached i membership = [.group, .entity] := by
    cases hi
    decide
  have hrefused := saveValidated_refused_iff reachable_joinedTwice hi hg ht
  obtain ⟨vs, hvs⟩ := hrefused.1.mpr (limitsReached_ne_nil_iff.mp (by simp [hlimits]))
  obtain ⟨hmap, hkeeps⟩ := hrefused.2 vs hvs
  refine ⟨vs, hvs, ?_, hkeeps⟩
  calc vs.map Violation.limit = (vs.map fun v => (v.limit, v.path)).map Prod.fst := by simp
    _ = [.group, .entity] := by simp [hmap, hlimits]

end Store

end Grouping
