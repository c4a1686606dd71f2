import Grouping.Proofs.Counting
import Grouping.Site.Attachment

/-! # Room under the limits

The limits of an installation leave room for a link, or they do not. A validation of a draft finds
nothing exactly if there is room. Whoever attaches media counts the relations of the item instead, and
comes to the same answer. Room that is gone does not come back while relations are only added.
-/

namespace Grouping

namespace RelationTable

variable {t t' : RelationTable}

/-- The groups other than the link's own that have its target through its relation bundle. -/
def othersWith (t : RelationTable) (l : Link) : List Int64 :=
  (t.groupsWith l.contentType l.key).filter (· ≠ l.group)

theorem mem_othersWith_iff {l : Link} {g : Int64} :
    g ∈ t.othersWith l ↔ g ∈ t.groupsWith l.contentType l.key ∧ g ≠ l.group := by
  unfold othersWith
  rw [List.mem_filter, decide_eq_true_eq]

theorem nodup_othersWith (t : RelationTable) (l : Link) : (t.othersWith l).Nodup :=
  (nodup_distinct _).filter _

theorem length_eq_othersWith {l : Link} {gs : List Int64} (hn : gs.Nodup)
    (h : ∀ g, g ∈ gs ↔ g ∈ t.groupsWith l.contentType l.key ∧ g ≠ l.group) :
    gs.length = (t.othersWith l).length := by
  refine ((List.perm_ext_iff_of_nodup hn (t.nodup_othersWith l)).mpr fun g => ?_).length_eq
  rw [h, mem_othersWith_iff]

theorem length_othersWith_le (h : t.links.Sublist t'.links) (l : Link) :
    (t.othersWith l).length ≤ (t'.othersWith l).length := by
  apply (t.nodup_othersWith l).length_le_of_subset
  intro g hg
  obtain ⟨hg, hne⟩ := mem_othersWith_iff.mp hg
  obtain ⟨x, hx, hlink⟩ := mem_groupsWith_iff.mp hg
  exact mem_othersWith_iff.mpr ⟨mem_groupsWith_iff.mpr ⟨x, h.subset hx, hlink⟩, hne⟩

def rowsTo (t : RelationTable) (k : EntityKey) : List Relation :=
  t.relations.filter fun r => r.key = k

theorem Coherent.select_ofTarget (h : t.Coherent) (k : EntityKey) :
    t.select (.ofTarget k) = t.rowsTo k := by
  rw [h.select_eq_scan, scan, rowsTo]
  refine List.filter_congr fun r _ => ?_
  rw [Bool.eq_iff_iff, RelationQuery.ofTarget_holds_iff, decide_eq_true_eq]

end RelationTable

namespace Installation

variable {i : Installation} {t t' : RelationTable} {l : Link}

/-- The limits of the installation leave room for one more relation with the link. -/
structure Admits (i : Installation) (t : RelationTable) (l : Link) : Prop where
  group : 0 < i.groupLimit → (t.othersWith l).length < i.groupLimit
  entity : 0 < i.entityLimit → t.timesIn l.group l.plugin l.key < i.entityLimit

theorem Admits.of_sublist (h : i.Admits t' l) (hlinks : t.links.Sublist t'.links) :
    i.Admits t l where
  group hpos := Nat.lt_of_le_of_lt (RelationTable.length_othersWith_le hlinks l) (h.group hpos)
  entity hpos := Nat.lt_of_le_of_lt (RelationTable.timesIn_le hlinks _ _ _) (h.entity hpos)

theorem isGroupLimitReached_iff (hct : l.contentType = i.contentType) :
    i.isGroupLimitReached (t.rowsTo l.key) l.group = true ↔
      0 < i.groupLimit ∧ i.groupLimit ≤ (t.othersWith l).length := by
  unfold isGroupLimitReached
  rw [Bool.and_eq_true, decide_eq_true_eq, decide_eq_true_eq,
    RelationTable.length_eq_othersWith (l := l) (nodup_distinct _)]
  intro g
  rw [mem_distinct, RelationTable.groupsWith, mem_distinct, hct]
  simp only [List.mem_filter, List.mem_map, RelationTable.rowsTo, decide_eq_true_eq]
  constructor
  · rintro ⟨⟨r, ⟨⟨hr, hk⟩, hr'⟩, hg⟩, hne⟩
    exact ⟨⟨r, ⟨hr, hr', hk⟩, hg⟩, hne⟩
  · rintro ⟨⟨r, ⟨hr, hr', hk⟩, hg⟩, hne⟩
    exact ⟨⟨r, ⟨⟨hr, hk⟩, hr'⟩, hg⟩, hne⟩

theorem isEntityLimitReached_iff :
    i.isEntityLimitReached l.plugin (t.rowsTo l.key) l.group = true ↔
      0 < i.entityLimit ∧ i.entityLimit ≤ t.timesIn l.group l.plugin l.key := by
  have hrows : (t.rowsTo l.key).filter (fun r => r.group = l.group && r.plugin = l.plugin) =
      t.relations.filter fun r => r.group = l.group ∧ r.plugin = l.plugin ∧ r.key = l.key := by
    unfold RelationTable.rowsTo
    rw [List.filter_filter]
    refine List.filter_congr fun r _ => ?_
    rw [Bool.eq_iff_iff]
    simp [and_assoc]
  unfold isEntityLimitReached RelationTable.timesIn
  rw [hrows, Bool.and_eq_true, decide_eq_true_eq, decide_eq_true_eq]

/-- The limits that are looked up among the item's relations are reached when there is no room. -/
theorem admits_iff_not_reached (hct : l.contentType = i.contentType) :
    i.Admits t l ↔ ¬ (i.isGroupLimitReached (t.rowsTo l.key) l.group = true ∨
      i.isEntityLimitReached l.plugin (t.rowsTo l.key) l.group = true) := by
  rw [isGroupLimitReached_iff hct, isEntityLimitReached_iff, not_or, not_and, not_and, Nat.not_le,
    Nat.not_le]
  exact ⟨fun h => ⟨h.group, h.entity⟩, fun h => ⟨h.1, h.2⟩⟩

end Installation

namespace Store

variable {s s' : Store} {r : Relation}

/-- The installation that the index finds for the link leaves room for it. Nobody looks if the group
or the target is not stored. -/
def Validates (s : Store) (l : Link) : Prop :=
  ∀ i, s.registry.ofContentType? l.contentType = some i →
    (s.entities.load ⟨EntityTypeId.group, .int l.group⟩).isSome →
    (s.entities.load l.key).isSome → i.Admits s.relations l

theorem violations_unresolved
    (h : ¬ ∃ i group target, s.registry.ofContentType? r.contentType = some i ∧
      s.loadGroup r = some group ∧ s.loadTarget r = some target) :
    (s.violations r).1 = .ok [] := by
  have hwarm : s.warm.registry.ofContentType? r.contentType =
      s.registry.ofContentType? r.contentType := by
    rw [Registry.ofContentType?, s.agrees_warm.installed]
    rfl
  unfold violations
  dsimp only
  rw [hwarm]
  split
  · next i group target hi hg ht => exact absurd ⟨i, group, target, hi, hg, ht⟩ h
  · rfl

theorem exists_violations (hs : s.Sound) (r : Relation) : ∃ vs, (s.violations r).1 = .ok vs := by
  by_cases h : ∃ i group target, s.registry.ofContentType? r.contentType = some i ∧
      s.loadGroup r = some group ∧ s.loadTarget r = some target
  · obtain ⟨i, group, target, hi, hg, ht⟩ := h
    obtain ⟨label, hv⟩ := violations_eq hs hi hg ht
    exact ⟨_, hv⟩
  · exact ⟨[], violations_unresolved h⟩

theorem length_otherGroups (hs : s.Sound) (r : Relation) :
    (s.otherGroups r).length = (s.relations.othersWith r.link).length :=
  RelationTable.length_eq_othersWith (nodup_distinct _) fun _ => mem_otherGroups_iff hs

theorem violations_eq_nil_iff (hs : s.Sound) (hid : r.id = none) :
    (s.violations r).1 = .ok [] ↔ s.Validates r.link := by
  constructor
  · intro h i hi hgroup htarget
    obtain ⟨group, hg⟩ := Option.isSome_iff_exists.mp hgroup
    obtain ⟨target, ht⟩ := Option.isSome_iff_exists.mp htarget
    obtain ⟨hgroups, hentity⟩ := counts_of_violations_eq_nil hs hi hg ht h
    rw [length_otherGroups hs] at hgroups
    rw [length_counted_of_draft s hid] at hentity
    exact ⟨hgroups, hentity⟩
  · intro h
    by_cases hres : ∃ i group target, s.registry.ofContentType? r.contentType = some i ∧
        s.loadGroup r = some group ∧ s.loadTarget r = some target
    · obtain ⟨i, group, target, hi, hg, ht⟩ := hres
      obtain ⟨label, hv⟩ := violations_eq hs hi hg ht
      have hadmits := h i hi (Option.isSome_of_eq_some hg) (Option.isSome_of_eq_some ht)
      have hgroup : ¬ (0 < i.groupLimit ∧ i.groupLimit ≤ (s.otherGroups r).length) := by
        rintro ⟨hpos, hle⟩
        rw [length_otherGroups hs] at hle
        exact Nat.not_lt.mpr hle (hadmits.group hpos)
      have hentity : ¬ (0 < i.entityLimit ∧ i.entityLimit ≤ (s.counted r).length) := by
        rintro ⟨hpos, hle⟩
        rw [length_counted_of_draft s hid] at hle
        exact Nat.not_lt.mpr hle (hadmits.entity hpos)
      rw [hv, if_neg hgroup, if_neg hentity]
      rfl
    · exact violations_unresolved hres

end Store

end Grouping
