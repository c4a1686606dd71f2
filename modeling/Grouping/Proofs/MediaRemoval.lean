import Grouping.Proofs.Assignment
import Grouping.Proofs.Deletion

/-! # Which relations a removal of media deletes

A removal looks for the relations of the item by the serial id of the group that it is given, and not by
its key. It deletes what it finds and nothing else. For a group this is the media of that group; for an
entity of another type it is the media of the group with the same id.
-/

namespace Grouping

theorem RelationQuery.narrowed_holds_iff {k : EntityKey} {g : Int64} {contentTypes : List String}
    {r : Relation} :
    RelationQuery.holds
        { ofTarget k with groups := some [g], contentTypes := some contentTypes } r = true ↔
      (k = r.key ∧ r.contentType ∈ contentTypes) ∧ g = r.group := by
  have hholds : RelationQuery.holds
      { ofTarget k with groups := some [g], contentTypes := some contentTypes } r =
        (allows (some [g]) r.group && allows (some contentTypes) r.contentType &&
          (ofTarget k).holds r) := by
    simp [holds, ofTarget, allows, Bool.and_assoc]
  rw [hholds, Bool.and_eq_true, Bool.and_eq_true, allows_some_iff, allows_some_iff,
    ofTarget_holds_iff, List.mem_singleton]
  constructor
  · rintro ⟨⟨rfl, hct⟩, rfl⟩
    exact ⟨⟨rfl, hct⟩, rfl⟩
  · rintro ⟨⟨rfl, hct⟩, rfl⟩
    exact ⟨⟨rfl, hct⟩, rfl⟩

namespace Store

variable {s s' : Store} {p : Relation → Prop} [DecidablePred p] {n : Nat}

theorem Reachable.drops_nothing (hs : s.Reachable) (hp : ∀ r, ¬ p r) : s.Drops p 0 s where
  reachable := hs
  entities := rfl
  count := (List.countP_eq_zero.mpr fun r _ => by simp [hp]).symm
  relations := (List.filter_eq_self.mpr fun r _ => by simp [hp]).symm

theorem Drops.of_agrees_left {s₁ : Store} (ha : s.Agrees s₁) (h : s₁.Drops p n s') :
    s.Drops p n s' where
  reachable := h.reachable
  entities := h.entities.trans ha.entities
  count := by rw [h.count, ha.relations]
  relations := by rw [h.relations, ha.relations]

theorem Drops.none_iff (h : s.Drops p n s') {p' : Relation → Prop} [DecidablePred p']
    (hp' : ∀ r, ¬ p' r) : s.Drops p' n s' ↔ n = 0 := by
  constructor
  · intro h'
    rw [h'.count]
    exact List.countP_eq_zero.mpr fun r _ => by simp [hp']
  · rintro rfl
    have hfree := List.countP_eq_zero.mp h.count.symm
    refine ⟨h.reachable, h.entities, ?_, ?_⟩
    · exact (List.countP_eq_zero.mpr fun r _ => by simp [hp']).symm
    · rw [h.relations]
      exact List.filter_congr fun r hr => by simpa [hp'] using hfree r hr

end Store

namespace Site

variable {s s' : Site} {item group : Entity} {r : Relation}

/-- The relation is of the item, through the plugin for media of its bundle. -/
def LinksMedia (s : Site) (item : Entity) (r : Relation) : Prop :=
  item.key? = some r.key ∧
    r.contentType ∈ s.store.registry.contentTypesOf (PluginId.media item.bundle)

instance (s : Site) (item : Entity) (r : Relation) : Decidable (s.LinksMedia item r) :=
  inferInstanceAs (Decidable (_ ∧ _))

/-- A removal is refused without effect, or deletes the relations in the group with the serial id. -/
theorem removeMedia_cases (hs : s.store.Reachable) (item group : Entity) :
    (∃ f s', s.removeMedia item group = (.error f, s') ∧ s.Agrees s') ∨
    ∃ n s', s.removeMedia item group = (.ok n, s') ∧
      s.store.Drops (fun r => s.LinksMedia item r ∧ group.serial? = some r.group) n s'.store := by
  have ha := s.store.agrees_warm
  have hcontentTypes : s.store.warm.registry.contentTypesOf (PluginId.media item.bundle) =
      s.store.registry.contentTypesOf (PluginId.media item.bundle) := by
    unfold Registry.contentTypesOf
    rw [ha.installed]
  unfold removeMedia
  dsimp only
  -- where the answer is zero without a search, no relation could have been found
  split
  · next hnil =>
    refine .inr ⟨0, _, rfl, (hs.warm.drops_nothing ?_).of_agrees_left ha⟩
    rintro r ⟨⟨-, hct⟩, -⟩
    rw [← hcontentTypes, hnil] at hct
    cases hct
  · split
    · exact .inl ⟨_, _, rfl, agrees_store ha⟩
    · next g hg =>
      split
      · next hkey =>
        refine .inr ⟨0, _, rfl, (hs.warm.drops_nothing ?_).of_agrees_left ha⟩
        rintro r ⟨⟨hr, -⟩, -⟩
        rw [hkey] at hr
        cases hr
      · next k hkey =>
        refine .inr ⟨_, _, rfl, (Store.drops_deleteAll_select hs.warm fun r => ?_).of_agrees_left ha⟩
        rw [RelationQuery.narrowed_holds_iff, LinksMedia, hkey, hg, hcontentTypes, Option.some_inj,
          Option.some_inj]

/-- No relation is in an entity that is not a group. -/
theorem drops_in_iff {t : Store} {n : Nat}
    (h : s.store.Drops (fun r => s.LinksMedia item r ∧ group.serial? = some r.group) n t) :
    s.store.Drops (fun r => s.LinksMedia item r ∧ group.key? = some r.groupKey) n t ↔
      group.isGroup = true ∨ n = 0 := by
  cases hgroup : group.isGroup with
  | true =>
    refine iff_of_true (h.congr fun r _ => ?_) (.inl rfl)
    rw [Relation.groupKey, Entity.key?_eq_group_iff, hgroup, eq_self, true_and]
  | false =>
    have hnone : ∀ r, ¬ (s.LinksMedia item r ∧ group.key? = some r.groupKey) := by
      rintro r ⟨-, hkey⟩
      have hgroup' := (Entity.key?_eq_group_iff.mp hkey).1
      rw [hgroup] at hgroup'
      cases hgroup'
    rw [h.none_iff hnone, Bool.false_eq_true, false_or]

/-- A removal that fails changes nothing. Otherwise it deletes the relations of the item in the group
with the serial id of the entity that is passed as the group, and nothing else. These are the relations
in this entity exactly if it is a group, or if there were none to delete. -/
theorem removeMedia_drops (hs : s.store.Reachable) (item group : Entity) :
    (∀ f s', s.removeMedia item group = (.error f, s') → s.Agrees s') ∧
    ∀ n s', s.removeMedia item group = (.ok n, s') →
      s.store.Drops (fun r => s.LinksMedia item r ∧ group.serial? = some r.group) n s'.store ∧
      (s.store.Drops (fun r => s.LinksMedia item r ∧ group.key? = some r.groupKey) n s'.store ↔
        group.isGroup = true ∨ n = 0) := by
  rcases removeMedia_cases hs item group with ⟨f, s₁, hremoved, ha⟩ | ⟨m, s₁, hremoved, hdrops⟩
  · refine ⟨fun f' s' h => ?_, fun n s' h => ?_⟩
    · cases hremoved.symm.trans h
      exact ha
    · cases congrArg Prod.fst (hremoved.symm.trans h)
  · refine ⟨fun f' s' h => ?_, fun n s' h => ?_⟩
    · cases congrArg Prod.fst (hremoved.symm.trans h)
    · cases hremoved.symm.trans h
      exact ⟨hdrops, drops_in_iff hdrops⟩

end Site

namespace Gallery

/-- The image is in the first club. -/
def hung : Site :=
  { site 0 with
    store := ((store 0).addContent (club 1) picture (PluginId.media "image")).2 }

theorem reachable_hung : hung.store.Reachable :=
  (reachable_store 0).works (Store.works_addContent ..)

/-- The image is removed from the club. -/
theorem removeMedia_drops_club : ∃ s', hung.removeMedia picture (club 1) = (.ok 1, s') ∧
    hung.store.Drops (fun r => hung.LinksMedia picture r ∧ (club 1).key? = some r.groupKey) 1
      s'.store := by
  have hremoved : hung.removeMedia picture (club 1) =
      (.ok 1, (hung.removeMedia picture (club 1)).2) := Prod.ext (by decide +kernel) rfl
  have hdrops := (Site.removeMedia_drops reachable_hung picture (club 1)).2 1 _ hremoved
  exact ⟨_, hremoved, hdrops.2.mpr (.inl rfl)⟩

/-- It is removed from the club as well if an article is passed that has the same id. -/
theorem removeMedia_article : article.isGroup = false ∧
    hung.store.relations.relations.map (fun r => (r.groupKey, r.key)) =
      [(⟨EntityTypeId.group, .int 1⟩, ⟨EntityTypeId.node, .int 1⟩),
        (⟨EntityTypeId.group, .int 1⟩, ⟨EntityTypeId.media, .int 1⟩)] ∧
    ∃ s', hung.removeMedia picture article = (.ok 1, s') ∧
      s'.store.relations.relations.map (fun r => (r.groupKey, r.key)) =
        [(⟨EntityTypeId.group, .int 1⟩, ⟨EntityTypeId.node, .int 1⟩)] ∧
      ¬ hung.store.Drops (fun r => hung.LinksMedia picture r ∧ article.key? = some r.groupKey) 1
        s'.store := by
  have hremoved : hung.removeMedia picture article =
      (.ok 1, (hung.removeMedia picture article).2) := Prod.ext (by decide +kernel) rfl
  refine ⟨rfl, by decide +kernel, _, hremoved, by decide +kernel, fun h => ?_⟩
  have hcount := h.count
  revert hcount
  decide +kernel

end Gallery

end Grouping
