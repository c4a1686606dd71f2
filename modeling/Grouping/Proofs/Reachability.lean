import Grouping.Proofs.Effect
import Grouping.Proofs.RegistryStep
import Mathlib.Logic.Relation

/-! # Reachable stores

A store is reachable when operations on its parts lead to it from a new one. In a reachable store the
table of relations is coherent, entities are stored under their own keys, and the registry is sound.
The operations on the whole store are made of those on its parts and stay among the reachable stores.
-/

namespace Grouping

namespace EntityStore

/-- Entities are stored under their own keys. -/
def Keyed (s : EntityStore) : Prop := s.rows.All fun k e => e.key? = some k

/-- Something is stored under the key of the entity, if it has one. -/
def HoldsKeyOf (x : EntityStore) (e : Entity) : Prop := ∀ k, e.key? = some k → (x.load k).isSome

instance (x : EntityStore) (e : Entity) : Decidable (x.HoldsKeyOf e) :=
  decidable_of_iff ((e.key?.all fun k => (x.load k).isSome) = true) (by
    cases h : e.key? <;> simp [HoldsKeyOf, h])

variable {s s' : EntityStore} {types : TypeTable} {e e' : Entity}

theorem keyed_empty : empty.Keyed := OrderedMap.all_empty

theorem save_eq_ok (h : s.save types e = .ok (e', s')) :
    ∃ id, (e.id = some id ∨ e.id = none ∧ id = .int (s.nextId e.type)) ∧
      e' = { e with id := some id, saved := true } ∧ s'.rows = s.rows.insert ⟨e.type, id⟩ e' := by
  unfold save at h
  split at h
  · cases h
  · split at h
    · next n hid =>
      cases h
      exact ⟨.int n, .inl hid, rfl, rfl⟩
    · next n hid =>
      cases h
      exact ⟨.name n, .inl hid, rfl, rfl⟩
    · next hid _ =>
      cases h
      exact ⟨_, .inr ⟨hid, rfl⟩, rfl, rfl⟩
    · cases h

theorem load_delete (s : EntityStore) (k j : EntityKey) :
    (s.delete k).load j = if k = j then none else s.load j :=
  OrderedMap.get?_erase ..

theorem Keyed.save (hs : s.Keyed) (h : s.save types e = .ok (e', s')) : s'.Keyed := by
  obtain ⟨id, -, rfl, hrows⟩ := save_eq_ok h
  unfold Keyed
  rw [hrows]
  exact OrderedMap.All.insert hs rfl

theorem Keyed.delete (hs : s.Keyed) (k : EntityKey) : (s.delete k).Keyed := OrderedMap.All.erase hs k

end EntityStore

namespace Store

/-- The operations on the parts of a store. -/
inductive Step : Store → Store → Prop
  | registerType (s : Store) (t : EntityType) : Step s { s with types := s.types.register t }
  | resolveColumn (s : Store) (type : String) : Step s (s.columnFor type).2
  | clearColumns (s : Store) : Step s { s with columns := s.columns.clear }
  | registry {s : Store} {r : Registry} : s.registry.Step r → Step s { s with registry := r }
  | saveEntity {s : Store} {e e' : Entity} {entities : EntityStore} :
      s.entities.save s.types e = .ok (e', entities) → Step s { s with entities }
  | deleteEntity (s : Store) (k : EntityKey) : Step s { s with entities := s.entities.delete k }
  | insertRow (s : Store) (r : Relation) :
      Step s { s with relations := (s.relations.insert r).2 }
  | updateRow {s : Store} {r r' : Relation} {t : RelationTable} :
      s.relations.update r = .ok (r', t) → Step s { s with relations := t }
  | deleteRow (s : Store) (id : Int) : Step s { s with relations := (s.relations.delete id).2 }
  | setTags (s : Store) (tags : List String) : Step s { s with staleTags := tags }
  | setClock (s : Store) (now : Instant) : Step s { s with now }

/-- The stores that operations can produce. -/
inductive Reachable : Store → Prop
  | create (bundles : Bundles) (now : Instant) :
      Reachable (create .empty (.ofBundles bundles) now)
  | step {s s' : Store} : Reachable s → Step s s' → Reachable s'

structure Sound (s : Store) : Prop where
  relations : s.relations.Coherent
  entities : s.entities.Keyed
  registry : s.registry.Sound

variable {s s' : Store}

theorem Step.sound (h : Step s s') (hs : s.Sound) : s'.Sound := by
  obtain ⟨hr, he, hg⟩ := hs
  cases h with
  | registerType t => exact ⟨hr, he, hg⟩
  | resolveColumn type => exact ⟨hr, he, hg⟩
  | clearColumns => exact ⟨hr, he, hg⟩
  | registry h => exact ⟨hr, he, h.sound hg⟩
  | saveEntity h => exact ⟨hr, he.save h, hg⟩
  | deleteEntity k => exact ⟨hr, he.delete k, hg⟩
  | insertRow r => exact ⟨hr.insert r, he, hg⟩
  | updateRow h =>
    obtain ⟨-, id, old, hid, hold, rfl⟩ := RelationTable.update_eq_ok_iff.mp h
    exact ⟨hr.update hid hold, he, hg⟩
  | deleteRow id => exact ⟨hr.delete id, he, hg⟩
  | setTags tags => exact ⟨hr, he, hg⟩
  | setClock now => exact ⟨hr, he, hg⟩

theorem Reachable.of_steps (h : s.Reachable) (hsteps : Relation.ReflTransGen Step s s') :
    s'.Reachable := by
  induction hsteps with
  | refl => exact h
  | tail _ hstep ih => exact ih.step hstep

theorem Reachable.sound (h : s.Reachable) : s.Sound := by
  induction h with
  | create bundles now =>
    exact ⟨RelationTable.coherent_empty, EntityStore.keyed_empty,
      Registry.sound_ofCatalog fun _ h => absurd h nofun⟩
  | step _ hstep ih => exact hstep.sound ih

/-! ## Operations on the whole store -/

/-- A step that leaves the registry to remember more at most. -/
structure Task (s s' : Store) : Prop where
  step : Step s s'
  registry : s'.registry = s.registry ∨ s'.registry = s.registry.warm

def Works : Store → Store → Prop := Relation.ReflTransGen Task

theorem Reachable.works (h : s.Reachable) (hw : s.Works s') : s'.Reachable := by
  induction hw with
  | refl => exact h
  | tail _ htask ih => exact ih.step htask.step

theorem Works.registry (h : s.Works s') :
    s'.registry = s.registry ∨ s'.registry = s.registry.warm := by
  induction h with
  | refl => exact .inl rfl
  | tail _ htask ih =>
    rcases htask.registry with h | h
    · rwa [h]
    · right
      rcases ih with ih | ih
      · rw [h, ih]
      · rw [h, ih, Registry.warm_warm]

theorem Works.refl (s : Store) : s.Works s := Relation.ReflTransGen.refl

theorem Works.trans {s'' : Store} (h : s.Works s') (h' : s'.Works s'') : s.Works s'' :=
  Relation.ReflTransGen.trans h h'

theorem Step.works (h : Step s s') (hr : s'.registry = s.registry) : s.Works s' :=
  .single ⟨h, .inl hr⟩

theorem works_warm (s : Store) : s.Works s.warm := .single ⟨.registry (.warm _), .inr rfl⟩

theorem works_columnFor (s : Store) (type : String) : s.Works (s.columnFor type).2 :=
  (Step.resolveColumn s type).works rfl

theorem works_resolveTarget (s : Store) (entity : Entity) (groupType plugin : String) :
    s.Works (s.resolveTarget entity groupType plugin).2 := by
  unfold Store.resolveTarget
  split
  · exact .refl s
  · exact s.works_warm

theorem works_draft (s : Store) (entity group : Entity) (plugin : String) :
    s.Works (s.draft entity group plugin).2 := by
  have htarget := s.works_resolveTarget entity group.bundle plugin
  unfold Store.draft
  split
  · exact .refl s
  · split
    · next hr => rwa [hr] at htarget
    · next hr =>
      rw [hr] at htarget
      exact htarget.trans (works_columnFor _ _)

theorem works_violations (s : Store) (r : Relation) : s.Works (s.violations r).2 := by
  unfold Store.violations
  dsimp only
  split
  · split
    · exact s.works_warm
    · exact s.works_warm.trans (works_columnFor _ _)
  · exact s.works_warm

theorem works_report (s : Store) (r : Relation) : s.Works (s.report r) :=
  (Step.setTags s _).works rfl

theorem works_save (s : Store) (r : Relation) : s.Works (s.save r).2 := by
  rcases s.save_cases r with ⟨f, hs⟩ | ⟨r', t, hw, hs⟩
  · rw [hs]
    exact s.works_warm
  · rw [hs]
    refine Works.trans ?_ (works_report _ r')
    refine s.works_warm.trans ?_
    cases hw with
    | add i => exact (Step.insertRow s.warm _).works rfl
    | rewrite i id old hid hold =>
      have hu : s.warm.relations.update (s.rewritten i r old) = .ok _ :=
        RelationTable.update_eq_ok_iff.mpr ⟨rfl, id, old, hid, hold, rfl⟩
      exact (Step.updateRow hu).works rfl

theorem works_saveValidated (s : Store) (r : Relation) : s.Works (s.saveValidated r).2 := by
  have hv := s.works_violations r
  unfold Store.saveValidated
  split
  · next hs => rwa [hs] at hv
  · next s₁ hs =>
    rw [hs] at hv
    have hsave := hv.trans (s₁.works_save r)
    split
    · next hr => rwa [hr] at hsave
    · next hr => rwa [hr] at hsave
  · next hs => rwa [hs] at hv

theorem works_delete (s : Store) (r : Relation) : s.Works (s.delete r).2 := by
  rcases s.delete_cases r with ⟨hd, -⟩ | ⟨id, old, -, -, hd⟩
  · rw [hd]
    exact .refl s
  · rw [hd]
    exact ((Step.deleteRow s id).works rfl).trans (works_report _ r)

theorem works_deleteAll (s : Store) (rs : List Relation) : s.Works (s.deleteAll rs).2 := by
  induction rs generalizing s with
  | nil => exact .refl s
  | cons r rs ih => exact (s.works_delete r).trans (ih _)

theorem works_deleteByGroup (s : Store) (group : Entity) :
    s.Works (s.deleteByGroup group).2 := by
  unfold Store.deleteByGroup
  split
  · exact .refl s
  · exact s.works_deleteAll _

theorem works_deleteByEntity (s : Store) (entity : Entity) :
    s.Works (s.deleteByEntity entity).2 := by
  unfold Store.deleteByEntity
  split
  · exact .refl s
  · exact s.works_deleteAll _

theorem works_saveEntity (s : Store) (e : Entity) : s.Works (s.saveEntity e).2 := by
  unfold Store.saveEntity
  split
  · exact .refl s
  · next he => exact (Step.saveEntity he).works rfl

theorem works_dropEntity (s : Store) (e : Entity) : s.Works (s.dropEntity e) := by
  unfold Store.dropEntity
  split
  · exact .refl s
  · exact (Step.deleteEntity s _).works rfl

theorem works_addCreator (s : Store) (group owner : Entity) (roles : List String) :
    s.Works (s.addCreator group owner roles).2 := by
  have hdraft := s.works_draft owner group PluginId.membership
  unfold Store.addCreator
  split
  · next h => rwa [h] at hdraft
  · next h =>
    rw [h] at hdraft
    exact hdraft.trans (works_save _ _)

theorem works_addGroup (s : Store) (group : Entity) (member : Option Entity)
    (roles : List String) : s.Works (s.addGroup group member roles).2 := by
  have hsave := s.works_saveEntity group
  unfold Store.addGroup
  split
  · next h => rwa [h] at hsave
  · next saved s₁ h =>
    rw [h] at hsave
    split
    · exact hsave
    · next owner =>
      have hadd := hsave.trans (s₁.works_addCreator saved owner roles)
      split
      · next hr => rwa [hr] at hadd
      · next hr =>
        rw [hr] at hadd
        exact hadd.trans (works_dropEntity _ _)

theorem works_createGroup (s : Store) (group : Entity) (creator : Option Entity) :
    s.Works (s.createGroup group creator).2 := by
  unfold Store.createGroup
  split
  · exact .refl s
  · split
    · exact .refl s
    · dsimp only
      split
      · exact s.works_addGroup _ _ _
      · next member _ =>
        have htarget := s.works_resolveTarget member group.bundle PluginId.membership
        split
        · next h => rwa [h] at htarget
        · next h =>
          rw [h] at htarget
          exact htarget.trans (works_addGroup _ _ _ _)

theorem SavesDraft.works {entity group : Entity} {plugin : String} {o : Outcome Store Saving}
    (h : s.SavesDraft entity group plugin o) : s.Works o.2 := by
  have hdraft := s.works_draft entity group plugin
  cases h with
  | failed h => rwa [h] at hdraft
  | saved owner roles h =>
    rw [h] at hdraft
    exact hdraft.trans (works_saveValidated _ _)

theorem works_addContent (s : Store) (group entity : Entity) (plugin : String) :
    s.Works (s.addContent group entity plugin).2 := (s.savesDraft_addContent ..).works

theorem works_addMember (s : Store) (group user : Entity) (roles : List String) :
    s.Works (s.addMember group user roles).2 := (s.savesDraft_addMember ..).works

theorem works_deleteGroup (s : Store) (group : Entity) : s.Works (s.deleteGroup group).2 := by
  have hinside := s.works_deleteByGroup group
  unfold Store.deleteGroup
  split
  · next h => rwa [h] at hinside
  · next s₁ h =>
    rw [h] at hinside
    have houtside := hinside.trans (s₁.works_deleteByEntity group)
    split
    · next h => rwa [h] at houtside
    · next h =>
      rw [h] at houtside
      exact houtside.trans (works_dropEntity _ _)

theorem works_deleteEntity (s : Store) (e : Entity) : s.Works (s.deleteEntity e).2 := by
  have hrelations := s.works_deleteByEntity e
  unfold Store.deleteEntity
  split
  · exact s.works_deleteGroup e
  · split
    · next h => rwa [h] at hrelations
    · next h =>
      rw [h] at hrelations
      exact hrelations.trans (works_dropEntity _ _)

namespace Reachable

theorem warm (h : s.Reachable) : s.warm.Reachable := h.works s.works_warm

theorem resolveTarget (h : s.Reachable) (entity : Entity) (groupType plugin : String) :
    (s.resolveTarget entity groupType plugin).2.Reachable :=
  h.works (s.works_resolveTarget entity groupType plugin)

theorem draft (h : s.Reachable) (entity group : Entity) (plugin : String) :
    (s.draft entity group plugin).2.Reachable :=
  h.works (s.works_draft entity group plugin)

theorem save (h : s.Reachable) (r : Relation) : (s.save r).2.Reachable := h.works (s.works_save r)

theorem saveValidated (h : s.Reachable) (r : Relation) : (s.saveValidated r).2.Reachable :=
  h.works (s.works_saveValidated r)

theorem delete (h : s.Reachable) (r : Relation) : (s.delete r).2.Reachable :=
  h.works (s.works_delete r)

theorem deleteAll (h : s.Reachable) (rs : List Relation) : (s.deleteAll rs).2.Reachable :=
  h.works (s.works_deleteAll rs)

theorem deleteByGroup (h : s.Reachable) (group : Entity) : (s.deleteByGroup group).2.Reachable :=
  h.works (s.works_deleteByGroup group)

theorem deleteByEntity (h : s.Reachable) (entity : Entity) :
    (s.deleteByEntity entity).2.Reachable :=
  h.works (s.works_deleteByEntity entity)

theorem deleteByContentType (h : s.Reachable) (contentType : String) :
    (s.deleteByContentType contentType).2.Reachable :=
  h.deleteAll _

theorem saveEntity (h : s.Reachable) (e : Entity) : (s.saveEntity e).2.Reachable :=
  h.works (s.works_saveEntity e)

end Reachable

/-- A store with one group type that users may join once, a group of it and a user. -/
def club : Store :=
  let s := create .empty (.ofBundles .empty) ⟨0, 0⟩
  let types := (s.types.register (.content EntityTypeId.group "Group")).register
    (.content EntityTypeId.user "User")
  let registry := { s.registry with catalog := s.registry.catalog.register .membership }
  let registry := registry.registerGroupType { id := "club", label := "Club" }
  let registry := (registry.updateConfiguration "club" PluginId.membership { groupLimit := 1 }).2
  let s := (saveEntity { s with types, registry } (.group default "club" "Chess")).2
  (s.saveEntity (.create default EntityTypeId.user EntityTypeId.user)).2

theorem reachable_club : club.Reachable := by
  apply Reachable.saveEntity
  apply Reachable.saveEntity
  have h := Reachable.create .empty ⟨0, 0⟩
  have h := h.step (.registerType _ (.content EntityTypeId.group "Group"))
  have h := h.step (.registerType _ (.content EntityTypeId.user "User"))
  have h := h.step (.registry (.catalog (.register _ .membership)))
  have h := h.step (.registry (.registerGroupType _ { id := "club", label := "Club" }))
  exact h.step (.registry
    (.updateConfiguration _ "club" PluginId.membership { groupLimit := 1 }))

end Store

end Grouping
