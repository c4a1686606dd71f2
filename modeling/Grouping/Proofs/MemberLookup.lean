import Grouping.Proofs.Origin

/-! # Who is found as a member

A membership is looked up by the id of an entity and not by its key. All members are users, and so an
entity of another type is answered the membership of the user with its id, if there is one.
-/

namespace Grouping

namespace Relation

variable {l : List Relation} {r x y : Relation}

/-- What is under the key is a member of the group by the relation. -/
def IsMembership (x : Relation) (group : Entity) (k : EntityKey) : Prop :=
  group.key? = some x.groupKey ∧ x.plugin = PluginId.membership ∧ x.key = k

instance (x : Relation) (group : Entity) (k : EntityKey) : Decidable (x.IsMembership group k) :=
  inferInstanceAs (Decidable (_ ∧ _ ∧ _))

theorem Precedes.asymm (h : x.Precedes y) : ¬ y.Precedes x := by
  obtain ⟨i, j, hi, hj, hlt⟩ := h
  rintro ⟨j', i', hj', hi', hlt'⟩
  rw [hi] at hi'
  cases hi'
  rw [hj] at hj'
  cases hj'
  omega

theorem head?_eq_some_iff (h : l.Pairwise Precedes) :
    l.head? = some r ↔ r ∈ l ∧ ∀ x ∈ l, r = x ∨ r.Precedes x := by
  cases l with
  | nil => exact iff_of_false nofun fun h => List.not_mem_nil h.1
  | cons x l =>
    obtain ⟨hx, -⟩ := List.pairwise_cons.mp h
    rw [List.head?_cons, Option.some_inj]
    constructor
    · rintro rfl
      exact ⟨List.mem_cons_self, fun y hy => (List.mem_cons.mp hy).imp Eq.symm (hx y)⟩
    · rintro ⟨hr, hfirst⟩
      rcases List.mem_cons.mp hr with rfl | hr
      · rfl
      · exact (hfirst x List.mem_cons_self).elim Eq.symm fun hlt => absurd hlt (hx r hr).asymm

end Relation

namespace Store

variable {s : Store} {p q : Relation → Prop} {group e : Entity} {k : EntityKey} {r x : Relation}

/-- Of the stored relations with the property this one has the lowest id. -/
structure First (s : Store) (p : Relation → Prop) (r : Relation) : Prop where
  mem : r ∈ s.relations.relations
  holds : p r
  precedes : ∀ x ∈ s.relations.relations, p x → r = x ∨ r.Precedes x

theorem First.congr (h : s.First p r) (hpq : ∀ x ∈ s.relations.relations, p x ↔ q x) : s.First q r where
  mem := h.mem
  holds := (hpq r h.mem).mp h.holds
  precedes x hx hq := h.precedes x hx ((hpq x hx).mpr hq)

theorem first_congr (hpq : ∀ x ∈ s.relations.relations, p x ↔ q x) : s.First p r ↔ s.First q r :=
  ⟨fun h => h.congr hpq, fun h => h.congr fun x hx => (hpq x hx).symm⟩

theorem head?_filter_eq_some_iff [DecidablePred p] (hs : s.Sound) :
    (s.relations.relations.filter p).head? = some r ↔ s.First p r := by
  rw [Relation.head?_eq_some_iff (hs.relations.pairwise_relations.filter _)]
  simp only [List.mem_filter, decide_eq_true_eq, and_imp]
  exact ⟨fun ⟨⟨hr, hp⟩, hfirst⟩ => ⟨hr, hp, hfirst⟩, fun h => ⟨⟨h.mem, h.holds⟩, h.precedes⟩⟩

theorem exists_first [DecidablePred p] (hs : s.Sound) (hx : x ∈ s.relations.relations) (hp : p x) :
    ∃ r, s.First p r := by
  cases hhead : (s.relations.relations.filter p).head? with
  | some r => exact ⟨r, (head?_filter_eq_some_iff hs).mp hhead⟩
  | none =>
    have hnil := List.head?_eq_none_iff.mp hhead
    have hmem : x ∈ s.relations.relations.filter p := List.mem_filter.mpr ⟨hx, decide_eq_true hp⟩
    rw [hnil] at hmem
    cases hmem

/-- A member is looked for by its key. -/
def LooksUp (s : Store) (group e : Entity) : Prop :=
  ∀ r, s.member? group e = .ok (some r) ↔
    ∃ k, e.key? = some k ∧ s.First (fun x => x.IsMembership group k) r

theorem groupId_eq_ok_iff {message : String} {g : Int64} :
    groupId group message = .ok g ↔ group.key? = some ⟨EntityTypeId.group, .int g⟩ :=
  ⟨fun h => Entity.key?_eq_group_iff.mpr (groupId_eq_ok h), fun h => groupId_of_key h message⟩

/-- Memberships are found by the id of their targets, whatever the type of these is. -/
theorem member?_eq_some_iff (hs : s.Sound) (hk : e.key? = some k) :
    s.member? group e = .ok (some r) ↔
      s.First (fun x => group.key? = some x.groupKey ∧ x.plugin = PluginId.membership ∧
        x.key.id = k.id) r := by
  unfold member?
  rw [hk]
  dsimp only
  unfold byTargetId
  cases hg : groupId group unsavedGroupMessage with
  | error f =>
    refine iff_of_false nofun fun h => ?_
    rw [groupId_eq_ok_iff.mpr h.holds.1] at hg
    cases hg
  | ok g =>
    have hgroup : ∀ x : Relation, group.key? = some x.groupKey ↔ x.group = g := by
      intro x
      rw [groupId_eq_ok_iff.mp hg]
      simp [Relation.groupKey, eq_comm]
    have hquery : ∀ x : Relation, RelationQuery.holds
        { RelationQuery.inGroup g (some PluginId.membership) with targetIds := some [k.id] } x = true ↔
          group.key? = some x.groupKey ∧ x.plugin = PluginId.membership ∧ x.key.id = k.id := by
      intro x
      rw [hgroup]
      simp [RelationQuery.holds, RelationQuery.inGroup, RelationQuery.allows, and_assoc]
    rw [← head?_filter_eq_some_iff hs]
    simp only [Except.map, Except.ok.injEq, hs.relations.select_eq_scan, RelationTable.scan, ← hquery,
      Bool.decide_eq_true]

theorem isOk_member? (hk : e.key? = some k) :
    (∃ o, s.member? group e = .ok o) ↔ ∃ g, group.key? = some ⟨EntityTypeId.group, .int g⟩ := by
  unfold member?
  rw [hk]
  dsimp only
  unfold byTargetId
  cases hg : groupId group unsavedGroupMessage with
  | error f =>
    refine iff_of_false nofun ?_
    rintro ⟨g, hkey⟩
    rw [groupId_of_key hkey] at hg
    cases hg
  | ok g => exact iff_of_true ⟨_, rfl⟩ ⟨g, groupId_eq_ok_iff.mp hg⟩

/-! ## Members are users -/

def UsersOnly (s : Store) : Prop :=
  ∀ x ∈ s.relations.relations, x.plugin = PluginId.membership → x.key.type = EntityTypeId.user

theorem Enters.type_eq (h : s.Enters x) (hs : s.Sound) (hm : s.registry.KeepsMembership)
    (hplugin : x.plugin = PluginId.membership) : x.key.type = EntityTypeId.user := by
  obtain ⟨entity, group, i, hjoins, -⟩ := h
  have hinstalled := hjoins.installed
  rw [hplugin] at hinstalled
  have henabler := (hm.installed hs.registry _ i hinstalled).1
  have htype := (Enabler.accepts_iff.mp hjoins.accepts).1
  obtain ⟨-, -, hkey⟩ := Entity.key?_eq_some_iff.mp hjoins.key
  rw [henabler] at htype
  exact hkey.trans htype.symm

theorem usersOnly_of_run (bundles : Bundles) (now : Instant) (ops : List Operation) :
    (ops.foldl perform (fresh bundles now)).Reachable ∧
      (ops.foldl perform (fresh bundles now)).UsersOnly := by
  obtain ⟨hs, -, husers⟩ := List.foldlRecOn
    (motive := fun s => s.Reachable ∧ s.registry.KeepsMembership ∧ s.UsersOnly) ops perform
    ⟨reachable_fresh bundles now, keepsMembership_fresh bundles now, nofun⟩ (by
      rintro s ⟨hs, hm, husers⟩ op -
      refine ⟨hs.perform op, keepsMembership_perform hm hs op, fun x hx hplugin => ?_⟩
      rcases enters_of_mem_perform hs op hx with hold | henters
      · exact husers x hold hplugin
      · exact henters.type_eq hs.sound hm hplugin)
  exact ⟨hs, husers⟩

theorem UsersOnly.isMembership_iff (h : s.UsersOnly) (hx : x ∈ s.relations.relations) :
    x.IsMembership group ⟨EntityTypeId.user, k.id⟩ ↔
      group.key? = some x.groupKey ∧ x.plugin = PluginId.membership ∧ x.key.id = k.id := by
  refine and_congr_right fun _ => and_congr_right fun hplugin => ?_
  rw [EntityKey.ext_iff]
  exact and_iff_right (h x hx hplugin)

theorem UsersOnly.member?_eq_some_iff (h : s.UsersOnly) (hs : s.Sound) (hk : e.key? = some k) :
    s.member? group e = .ok (some r) ↔
      s.First (fun x => x.IsMembership group ⟨EntityTypeId.user, k.id⟩) r :=
  (Store.member?_eq_some_iff hs hk).trans (first_congr fun _ hx => (h.isMembership_iff hx).symm)

theorem UsersOnly.looksUp_iff (h : s.UsersOnly) (hs : s.Sound) (hk : e.key? = some k) :
    s.LooksUp group e ↔ e.type = EntityTypeId.user ∨
      ∀ x ∈ s.relations.relations, ¬ x.IsMembership group ⟨EntityTypeId.user, k.id⟩ := by
  have htype : e.type = EntityTypeId.user ↔ k = ⟨EntityTypeId.user, k.id⟩ := by
    obtain ⟨-, -, htype⟩ := Entity.key?_eq_some_iff.mp hk
    rw [EntityKey.ext_iff, ← htype]
    exact (and_iff_left rfl).symm
  simp only [LooksUp, h.member?_eq_some_iff hs hk, hk, Option.some.injEq, exists_eq_left', htype]
  constructor
  · intro hlooks
    refine or_iff_not_imp_right.mpr fun hsome => ?_
    push Not at hsome
    obtain ⟨x, hx, hmembership⟩ := hsome
    obtain ⟨r, hr⟩ := exists_first (p := fun x => x.IsMembership group _) hs hx hmembership
    obtain ⟨-, -, hkey⟩ := hr.holds
    obtain ⟨-, -, hkey'⟩ := ((hlooks r).mp hr).holds
    exact hkey'.symm.trans hkey
  · rintro (huser | hnone) r
    · rw [← huser]
    · refine iff_of_false (fun hr => hnone r hr.mem hr.holds) fun hr => ?_
      -- who is a member is a user
      obtain ⟨hgroup, hplugin, rfl⟩ := hr.holds
      exact hnone r hr.mem ((h.isMembership_iff hr.mem).mpr ⟨hgroup, hplugin, rfl⟩)

/-- On a new site the answer is the first membership of the user who has the id of the entity. This is
what was asked for if the entity is a user, or if there is no such membership. -/
theorem looksUp_run (bundles : Bundles) (now : Instant) (ops : List Operation) (group e : Entity) :
    let s := ops.foldl perform (fresh bundles now)
    (e.key? = none → s.member? group e = .ok none ∧ s.LooksUp group e) ∧
    ∀ k, e.key? = some k →
      ((∃ o, s.member? group e = .ok o) ↔ ∃ g, group.key? = some ⟨EntityTypeId.group, .int g⟩) ∧
      (∀ r, s.member? group e = .ok (some r) ↔
        s.First (fun x => x.IsMembership group ⟨EntityTypeId.user, k.id⟩) r) ∧
      (s.LooksUp group e ↔ e.type = EntityTypeId.user ∨
        ∀ x ∈ s.relations.relations, ¬ x.IsMembership group ⟨EntityTypeId.user, k.id⟩) := by
  intro s
  obtain ⟨hs, husers⟩ := usersOnly_of_run bundles now ops
  refine ⟨fun hk => ?_, fun k hk => ⟨isOk_member? hk, fun r => husers.member?_eq_some_iff hs.sound hk,
    husers.looksUp_iff hs.sound hk⟩⟩
  have hnone : s.member? group e = .ok none := by rw [member?, hk]
  refine ⟨hnone, fun r => ?_⟩
  rw [hnone, hk]
  exact iff_of_false nofun fun ⟨_, h, _⟩ => nomatch h

/-- An article with the id of the user. -/
def article : Entity :=
  { Entity.create default EntityTypeId.node "article" with id := some (.int 1), saved := true }

theorem looksUp_run_founded :
    let s := founded.foldl perform (fresh .empty ⟨0, 0⟩)
    s.LooksUp chess user ∧ (∃ o, s.member? chess user = .ok o) ∧
      ∃ r, s.First (fun x => x.IsMembership chess ⟨EntityTypeId.user, .int 1⟩) r := by
  obtain ⟨-, hkey⟩ := looksUp_run .empty ⟨0, 0⟩ founded chess user
  obtain ⟨hok, -, hlooks⟩ := hkey ⟨EntityTypeId.user, .int 1⟩ rfl
  refine ⟨hlooks.mpr (.inl rfl), hok.mpr ⟨1, rfl⟩, ?_⟩
  obtain ⟨hs, -⟩ := usersOnly_of_run .empty ⟨0, 0⟩ founded
  have hmember : ∃ x ∈ (founded.foldl perform (fresh .empty ⟨0, 0⟩)).relations.relations,
      x.IsMembership chess ⟨EntityTypeId.user, .int 1⟩ := by
    decide +kernel
  obtain ⟨x, hx, hmembership⟩ := hmember
  exact exists_first (p := fun x => x.IsMembership chess _) hs.sound hx hmembership

/-- The membership of the founder is the answer for the article too. -/
theorem not_looksUp_article :
    let s := founded.foldl perform (fresh .empty ⟨0, 0⟩)
    ¬ s.LooksUp chess article ∧ s.member? chess article = s.member? chess user := by
  have hmember : ∃ r ∈ (founded.foldl perform (fresh .empty ⟨0, 0⟩)).relations.relations,
      (founded.foldl perform (fresh .empty ⟨0, 0⟩)).member? chess article = .ok (some r) ∧
        r.key.type = EntityTypeId.user := by
    decide +kernel
  obtain ⟨r, -, hr, htype⟩ := hmember
  refine ⟨fun hlooks => ?_, by decide +kernel⟩
  obtain ⟨k, hk, hfirst⟩ := (hlooks r).mp hr
  obtain ⟨-, -, hkey⟩ := hfirst.holds
  rw [hkey] at htype
  cases hk
  revert htype
  decide

end Store

end Grouping
