import Grouping.Lifecycle
import Grouping.Proofs.Indexing

/-! # What the operations on a store do

Reading a store changes nothing but what it remembers. A save that succeeds sets one row and reports
it, a deletion that finds its row clears it and reports the record that it was given; all else is left
as it was.
-/

namespace Grouping

namespace Store

/-- The second state remembers other things, but it holds what the first one holds. -/
structure Agrees (s s' : Store) : Prop where
  types : s'.types = s.types
  entities : s'.entities = s.entities
  relations : s'.relations = s.relations
  staleTags : s'.staleTags = s.staleTags
  now : s'.now = s.now
  groupTypes : s'.registry.groupTypes = s.registry.groupTypes
  configured : s'.registry.configured = s.registry.configured
  installed : s'.registry.installed = s.registry.installed

variable {s s' s'' : Store}

theorem Agrees.refl (s : Store) : s.Agrees s := ⟨rfl, rfl, rfl, rfl, rfl, rfl, rfl, rfl⟩

theorem Agrees.trans (h : s.Agrees s') (h' : s'.Agrees s'') : s.Agrees s'' where
  types := h'.types.trans h.types
  entities := h'.entities.trans h.entities
  relations := h'.relations.trans h.relations
  staleTags := h'.staleTags.trans h.staleTags
  now := h'.now.trans h.now
  groupTypes := h'.groupTypes.trans h.groupTypes
  configured := h'.configured.trans h.configured
  installed := h'.installed.trans h.installed

theorem Agrees.symm (h : s.Agrees s') : s'.Agrees s :=
  ⟨h.types.symm, h.entities.symm, h.relations.symm, h.staleTags.symm, h.now.symm,
    h.groupTypes.symm, h.configured.symm, h.installed.symm⟩

theorem agrees_warm (s : Store) : s.Agrees s.warm :=
  ⟨rfl, rfl, rfl, rfl, rfl, s.registry.groupTypes_warm, s.registry.configured_warm,
    s.registry.installed_warm⟩

theorem agrees_columnFor (s : Store) (type : String) : s.Agrees (s.columnFor type).2 :=
  ⟨rfl, rfl, rfl, rfl, rfl, rfl, rfl, rfl⟩

theorem agrees_resolveTarget (s : Store) (entity : Entity) (groupType plugin : String) :
    s.Agrees (s.resolveTarget entity groupType plugin).2 := by
  unfold resolveTarget
  split
  · exact .refl s
  · exact s.agrees_warm

theorem resolveTarget_congr (s s' : Store) (h : s'.registry.installed = s.registry.installed)
    (entity : Entity) (groupType plugin : String) :
    (s'.resolveTarget entity groupType plugin).1 = (s.resolveTarget entity groupType plugin).1 := by
  have hon : s'.warm.registry.installedOn groupType = s.warm.registry.installedOn groupType := by
    unfold Registry.installedOn
    rw [s'.agrees_warm.installed, s.agrees_warm.installed, h]
  unfold resolveTarget
  cases entity.key? with
  | none => rfl
  | some k =>
    dsimp only
    rw [hon]

theorem agrees_draft (s : Store) (entity group : Entity) (plugin : String) :
    s.Agrees (s.draft entity group plugin).2 := by
  have h := s.agrees_resolveTarget entity group.bundle plugin
  unfold draft
  split
  · exact .refl s
  · split
    · next hr => rwa [hr] at h
    · next hr =>
      rw [hr] at h
      exact h.trans (agrees_columnFor _ _)

theorem agrees_violations (s : Store) (r : Relation) : s.Agrees (s.violations r).2 := by
  unfold violations
  dsimp only
  split
  · split
    · exact s.agrees_warm
    · exact s.agrees_warm.trans (agrees_columnFor _ _)
  · exact s.agrees_warm

structure Drafts (s : Store) (entity group : Entity) (plugin : String) (r : Relation)
    (i : Installation) : Prop where
  isGroup : group.isGroup = true
  serial? : group.serial? = some r.group
  groupType : r.groupType = group.bundle
  key? : entity.key? = some r.key
  isDraft : r.id = none
  plugin_eq : r.plugin = plugin
  contentType : r.contentType = i.contentType
  installed : (s.registry.installedOn group.bundle).get? plugin = some i

theorem Drafts.groupKey {entity group : Entity} {plugin : String} {r : Relation} {i : Installation}
    (h : s.Drafts entity group plugin r i) :
    group.key? = some ⟨EntityTypeId.group, .int r.group⟩ :=
  Entity.key?_eq_group_iff.mpr ⟨h.isGroup, h.serial?⟩

theorem groupId_eq_ok {group : Entity} {message : String} {g : Int64}
    (h : groupId group message = .ok g) : group.isGroup = true ∧ group.serial? = some g := by
  unfold groupId at h
  split at h
  · cases h
  · next hg =>
    refine ⟨by simpa using hg, ?_⟩
    split at h
    · next n hn =>
      cases h
      exact hn
    · cases h

theorem groupId_of_key {group : Entity} {g : Int64}
    (h : group.key? = some ⟨EntityTypeId.group, .int g⟩)
    (message : String) : groupId group message = .ok g := by
  obtain ⟨hgroup, hserial⟩ := Entity.key?_eq_group_iff.mp h
  unfold groupId
  rw [if_neg (not_not.mpr hgroup), hserial]

theorem serving_eq_ok {plugins : InstalledPlugins} {entity : Entity} {plugin : String}
    {i : Installation} (h : serving plugins entity plugin = .ok i) :
    plugins.get? plugin = some i := by
  unfold serving at h
  split at h
  · cases h
  · next j hj =>
    split at h
    · cases h
    · split at h
      · cases h
      · cases h
        exact hj

theorem resolveTarget_eq_ok {entity : Entity} {groupType plugin : String} {id : EntityId}
    {i : Installation} (h : s.resolveTarget entity groupType plugin = (.ok (id, i), s')) :
    entity.key? = some ⟨entity.type, id⟩ ∧
      (s.registry.installedOn groupType).get? plugin = some i := by
  unfold resolveTarget at h
  split at h
  · cases h
  · next k hk =>
    dsimp only at h
    obtain ⟨hres, -⟩ := Prod.mk.inj h
    have htype := (Entity.key?_eq_some_iff.mp hk).2.2
    cases hs : serving (s.warm.registry.installedOn groupType) entity plugin with
    | error f =>
      rw [hs] at hres
      cases hres
    | ok j =>
      rw [hs] at hres
      cases hres
      refine ⟨by rw [hk, ← htype], ?_⟩
      have hget := serving_eq_ok hs
      rwa [Registry.installedOn, s.agrees_warm.installed] at hget

theorem drafts_of_draft {entity group : Entity} {plugin : String} {r : Relation}
    (h : s.draft entity group plugin = (.ok r, s')) :
    ∃ i, s.Drafts entity group plugin r i := by
  unfold draft at h
  split at h
  · cases h
  · next g hg =>
    split at h
    · cases h
    · next id i s₁ hr =>
      obtain ⟨hgroup, hserial⟩ := groupId_eq_ok hg
      obtain ⟨hkey, hinst⟩ := resolveTarget_eq_ok hr
      cases h
      exact ⟨i, hgroup, hserial, rfl, hkey, rfl, rfl, rfl, hinst⟩

/-- Content and members are added by a validated save of a draft that was given an owner and roles. -/
inductive SavesDraft (s : Store) (entity group : Entity) (plugin : String) :
    Outcome Store Saving → Prop
  | failed {f s'} : s.draft entity group plugin = (.error f, s') →
      SavesDraft s entity group plugin (.error f, s')
  | saved {r s'} (owner : Option Int64) (roles : List String) :
      s.draft entity group plugin = (.ok r, s') →
      SavesDraft s entity group plugin (s'.saveValidated { r with owner, roles })

theorem savesDraft_addContent (s : Store) (group entity : Entity) (plugin : String) :
    s.SavesDraft entity group plugin (s.addContent group entity plugin) := by
  unfold addContent
  split
  · next hdraft => exact .failed hdraft
  · next r _ hdraft => exact .saved entity.owner r.roles hdraft

theorem savesDraft_addMember (s : Store) (group user : Entity) (roles : List String) :
    s.SavesDraft user group PluginId.membership (s.addMember group user roles) := by
  unfold addMember
  split
  · next hdraft => exact .failed hdraft
  · next hdraft => exact .saved user.serial? roles hdraft

/-- The relation as a save writes it, apart from its id and its time of creation. -/
def stamped (s : Store) (i : Installation) (r : Relation) : Relation :=
  { r with label := s.labelFor i r, changed := s.now }

def rewritten (s : Store) (i : Installation) (r old : Relation) : Relation :=
  { s.stamped i r with created := old.created }

def added (s : Store) (i : Installation) (r : Relation) : Relation :=
  { s.stamped i r with created := s.now }

/-- What a save that succeeds does to the table of relations. -/
inductive Writes (s : Store) (r : Relation) : Relation → RelationTable → Prop
  | add (i : Installation) : r.id = none → s.registry.ofContentType? r.contentType = some i →
      Writes s r (s.relations.inserted (s.added i r)) (s.relations.insert (s.added i r)).2
  | rewrite (i : Installation) (id : Int) (old : Relation) : r.id = some id →
      s.load id = some old → old.group = r.group →
      s.registry.ofContentType? r.contentType = some i →
      Writes s r (s.rewritten i r old) ((s.relations.unindex id old).put id (s.rewritten i r old))

theorem Writes.mem_cases {r r' x : Relation} {t : RelationTable} (hw : s.Writes r r' t)
    (hs : s.relations.Coherent) (hx : x ∈ t.relations) : x ∈ s.relations.relations ∨ x = r' := by
  cases hw with
  | add i =>
    rwa [RelationTable.relations_insert hs, List.mem_append, List.mem_singleton] at hx
  | rewrite i id old hid hold =>
    obtain ⟨j, hj⟩ := RelationTable.mem_relations_iff.mp hx
    rw [RelationTable.get?_rewritten] at hj
    split at hj
    · exact .inr (Option.some.inj hj).symm
    · exact .inl (RelationTable.mem_relations_iff.mpr ⟨j, hj⟩)

theorem installationOf_eq (s : Store) (r : Relation) :
    s.installationOf r =
      (match s.registry.ofContentType? r.contentType with
        | some i => .ok i
        | none => .error (.pluginNotFound r.plugin), s.warm) := by
  have h : s.warm.registry.ofContentType? r.contentType =
      s.registry.ofContentType? r.contentType := by
    unfold Registry.ofContentType?
    rw [s.agrees_warm.installed]
  unfold installationOf
  dsimp only
  rw [h]
  cases s.registry.ofContentType? r.contentType <;> rfl

theorem save_of_installation {r : Relation} {i : Installation}
    (hi : s.registry.ofContentType? r.contentType = some i) :
    s.save r =
      match (s.stamped i r).id with
      | some id => s.warm.rewrite id (s.stamped i r)
      | none => (.ok (s.warm.add (s.stamped i r)).1, (s.warm.add (s.stamped i r)).2) := by
  unfold save
  rw [installationOf_eq, hi]
  rfl

theorem rewrite_cases (s : Store) {id : Int} {r : Relation} (hid : r.id = some id) :
    (∃ f, s.rewrite id r = (.error f, s)) ∨
      ∃ old row, s.load id = some old ∧ old.group = r.group ∧
        row = { r with created := old.created } ∧
        s.rewrite id r =
          (.ok row, { s with relations := (s.relations.unindex id old).put id row }.report row) := by
  unfold rewrite
  cases hold : s.relations.get? id with
  | none => exact .inl ⟨_, rfl⟩
  | some old =>
    dsimp only
    split
    · exact .inl ⟨_, rfl⟩
    · next hg =>
      have hu : s.relations.update { r with created := old.created } = .ok _ :=
        RelationTable.update_eq_ok_iff.mpr ⟨rfl, id, old, hid, hold, rfl⟩
      rw [hu]
      exact .inr ⟨old, _, hold, Decidable.not_not.mp hg, rfl, rfl⟩

/-- A save fails and changes nothing, or it writes the relation and reports it. -/
theorem save_cases (s : Store) (r : Relation) :
    (∃ f, s.save r = (.error f, s.warm)) ∨
      ∃ r' t, s.Writes r r' t ∧ s.save r = (.ok r', { s.warm with relations := t }.report r') := by
  cases hi : s.registry.ofContentType? r.contentType with
  | none =>
    left
    unfold save
    rw [installationOf_eq, hi]
    exact ⟨_, rfl⟩
  | some i =>
    rw [save_of_installation hi]
    cases hid : (s.stamped i r).id with
    | none => exact .inr ⟨_, _, .add i hid hi, rfl⟩
    | some id =>
      rcases s.warm.rewrite_cases hid with ⟨f, h⟩ | ⟨old, row, hold, hg, rfl, h⟩
      · exact .inl ⟨f, h⟩
      · exact .inr ⟨_, _, .rewrite i id old hid hold hg hi, h⟩

theorem save_draft {r : Relation} {i : Installation} (hid : r.id = none)
    (hi : s.registry.ofContentType? r.contentType = some i) :
    (s.save r).1 = .ok (s.relations.inserted (s.added i r)) := by
  have hstamped : (s.stamped i r).id = none := hid
  rw [save_of_installation hi, hstamped]
  rfl

/-- A deletion that finds no row changes nothing; otherwise it clears the row and reports the record
that it was given. -/
theorem delete_cases (s : Store) (r : Relation) :
    (s.delete r = (false, s) ∧ ∀ id, r.id = some id → s.load id = none) ∨
      ∃ id old, r.id = some id ∧ s.load id = some old ∧
        s.delete r = (true, { s with relations := (s.relations.delete id).2 }.report r) := by
  unfold delete
  cases hid : r.id with
  | none => exact .inl ⟨rfl, fun _ h => absurd h nofun⟩
  | some id =>
    dsimp only
    unfold removeRow
    cases hold : s.relations.get? id with
    | none =>
      rw [RelationTable.delete_of_get?_eq_none hold]
      refine .inl ⟨rfl, fun j hj => ?_⟩
      cases hj
      exact hold
    | some old =>
      refine .inr ⟨id, old, rfl, hold, ?_⟩
      rw [RelationTable.delete_of_get?_eq_some hold]

theorem registry_delete (s : Store) (r : Relation) : (s.delete r).2.registry = s.registry := by
  rcases s.delete_cases r with ⟨h, -⟩ | ⟨id, old, -, -, h⟩
  · rw [h]
  · rw [h]
    rfl

theorem relations_delete (s : Store) (r : Relation) :
    (s.delete r).2.relations.relations.Sublist s.relations.relations := by
  rcases s.delete_cases r with ⟨h, -⟩ | ⟨id, old, -, -, h⟩
  · rw [h]
  · rw [h]
    exact s.relations.relations_delete_sublist id

theorem registry_deleteAll (s : Store) (rs : List Relation) :
    (s.deleteAll rs).2.registry = s.registry := by
  induction rs generalizing s with
  | nil => rfl
  | cons r rs ih => exact (ih (s.delete r).2).trans (s.registry_delete r)

theorem relations_deleteAll (s : Store) (rs : List Relation) :
    (s.deleteAll rs).2.relations.relations.Sublist s.relations.relations := by
  induction rs generalizing s with
  | nil => exact List.Sublist.refl _
  | cons r rs ih => exact (ih (s.delete r).2).trans (s.relations_delete r)

theorem entities_delete (s : Store) (r : Relation) : (s.delete r).2.entities = s.entities := by
  rcases s.delete_cases r with ⟨h, -⟩ | ⟨id, old, -, -, h⟩
  · rw [h]
  · rw [h]
    rfl

theorem entities_deleteAll (s : Store) (rs : List Relation) :
    (s.deleteAll rs).2.entities = s.entities := by
  induction rs generalizing s with
  | nil => rfl
  | cons r rs ih => exact (ih (s.delete r).2).trans (s.entities_delete r)

theorem Agrees.writes {r r' : Relation} {t : RelationTable} (h : s.Agrees s')
    (hw : s'.Writes r r' t) : s.Writes r r' t := by
  have hinst : s'.registry.ofContentType? = s.registry.ofContentType? := by
    funext ct
    unfold Registry.ofContentType?
    rw [h.installed]
  have hstamped : ∀ i x, s'.stamped i x = s.stamped i x := by
    intro i x
    unfold stamped labelFor loadTarget
    rw [h.entities, h.now]
  cases hw with
  | add i hid hi =>
    have hrow : s'.added i r = s.added i r := by
      unfold added
      rw [hstamped, h.now]
    rw [hrow, h.relations]
    exact .add i hid (hinst ▸ hi)
  | rewrite i id old hid hold hg hi =>
    have hrow : s'.rewritten i r old = s.rewritten i r old := by
      unfold rewritten
      rw [hstamped]
    have hold : s.load id = some old := by
      unfold load
      rw [← h.relations]
      exact hold
    rw [hrow, h.relations]
    exact .rewrite i id old hid hold hg (hinst ▸ hi)

/-- A validated save fails or refuses and changes nothing, or it finds no violation, writes the
relation and reports it. -/
theorem saveValidated_cases (s : Store) (r : Relation) :
    (s.Agrees (s.saveValidated r).2 ∧ ∀ r', (s.saveValidated r).1 ≠ .ok (.saved r')) ∨
      ∃ r' t s₁, (s.violations r).1 = .ok [] ∧ s.Writes r r' t ∧ s.Agrees s₁ ∧
        s.saveValidated r = (.ok (.saved r'), { s₁ with relations := t }.report r') := by
  have hagrees := s.agrees_violations r
  unfold saveValidated
  rcases hv : s.violations r with ⟨vs, s₁⟩
  rw [hv] at hagrees
  rcases vs with f | vs
  · exact .inl ⟨hagrees, fun _ h => by cases h⟩
  · rcases vs with _ | ⟨v, vs⟩
    · dsimp only
      have hwarm := hagrees.trans s₁.agrees_warm
      rcases s₁.save_cases r with ⟨f, hs⟩ | ⟨r', t, hw, hs⟩
      · rw [hs]
        exact .inl ⟨hwarm, fun _ h => by cases h⟩
      · rw [hs]
        exact .inr ⟨r', t, s₁.warm, rfl, hagrees.writes hw, hwarm, rfl⟩
    · exact .inl ⟨hagrees, fun _ h => by cases h⟩

end Store

end Grouping
