import Grouping.Proofs.Reachability

/-! # Creations of groups that fail

A group is stored before its creator becomes a member, and it is deleted again if that fails. The
preconditions of the membership are checked first, so only the group itself can make it fail: a group
that came with a name as id cannot have members. Deleting it restores the old state, unless something
was stored under that name before.
-/

namespace Grouping

theorem EntityStore.save_eq_error {s : EntityStore} {types : TypeTable} {e : Entity} {f : Failure}
    (h : s.save types e = .error f) : f = .unknownEntityType e.type ∨ f = .missingName e.type := by
  unfold save at h
  split at h
  · next g hg =>
    cases h
    unfold TypeTable.require at hg
    split at hg
    · cases hg
    · cases hg
      exact .inl rfl
  · split at h
    · cases h
    · cases h
    · cases h
    · cases h
      exact .inr rfl

namespace Store

variable {s s' : Store} {group owner : Entity} {f : Failure}

/-- The failure of a membership in a group without a serial id. -/
def noSerialId : Failure := .unsavedGroup "Cannot add an entity to an unsaved group."

theorem groupId_of_int {n : Int64} (hgroup : group.isGroup = true) (hsaved : group.saved = true)
    (hid : group.id = some (.int n)) (message : String) : groupId group message = .ok n := by
  have hkey := Entity.key?_eq_group_iff.mpr ⟨hgroup, Entity.serial?_eq_some_iff.mpr ⟨hsaved, hid⟩⟩
  exact groupId_of_key hkey message

theorem groupId_of_name {n : String} (hgroup : group.isGroup = true)
    (hid : group.id = some (.name n)) (message : String) :
    groupId group message = .error (.unsavedGroup message) := by
  have hserial : group.serial? = none := by
    unfold Entity.serial?
    simp [hid, EntityId.int?]
  unfold groupId
  rw [if_neg (by simp [hgroup]), hserial]

theorem resolveTarget_eq_error {groupType plugin : String}
    (h : (s.resolveTarget owner groupType plugin).1 = .error f) : f ≠ noSerialId := by
  rintro rfl
  unfold resolveTarget noSerialId at h
  split at h
  · cases h
  · dsimp only at h
    unfold serving at h
    split at h
    · cases h
    · split at h
      · cases h
      · split at h
        · cases h
        · cases h

theorem draft_eq_ok {plugin : String} {n : Int64} {x : EntityId × Installation}
    (hgroup : ∀ message, groupId group message = .ok n)
    (h : (s.resolveTarget owner group.bundle plugin).1 = .ok x) :
    ∃ r s', s.draft owner group plugin = (.ok r, s') := by
  unfold draft
  rw [hgroup]
  dsimp only
  rcases hr : s.resolveTarget owner group.bundle plugin with ⟨result, s'⟩
  rw [hr] at h
  cases h
  exact ⟨_, _, rfl⟩

theorem addCreator_eq_ok (hs : s.Reachable) {n : Int64} {x : EntityId × Installation}
    (hgroup : ∀ message, groupId group message = .ok n)
    (h : (s.resolveTarget owner group.bundle PluginId.membership).1 = .ok x)
    (roles : List String) : ∃ r, (s.addCreator group owner roles).1 = .ok r := by
  obtain ⟨r, s₁, hdraft⟩ := draft_eq_ok hgroup h
  obtain ⟨i, hd⟩ := drafts_of_draft hdraft
  have ha := s.agrees_draft owner group PluginId.membership
  rw [hdraft] at ha
  have hindexed := hs.sound.registry.installed
  obtain ⟨hlists, -⟩ := hindexed.lists hd.installed
  obtain ⟨j, hj⟩ := Option.isSome_iff_exists.mp (hindexed.found i hlists)
  unfold addCreator
  rw [hdraft]
  have hcontent : s₁.registry.ofContentType? r.contentType = some j := by
    rw [Registry.ofContentType?, ha.installed, hd.contentType]
    exact hj
  exact ⟨_, save_draft (r := { r with owner := owner.serial?, roles }) hd.isDraft hcontent⟩

theorem addCreator_eq_error (hgroup : ∀ message, groupId group message =
      .error (.unsavedGroup message)) (roles : List String) :
    s.addCreator group owner roles = (.error noSerialId, s) := by
  unfold addCreator draft
  rw [hgroup]
  rfl

/-- Once the creator may join, only a name as id makes the membership fail. -/
theorem addCreator_fails (hs : s.Reachable) {id : EntityId} {x : EntityId × Installation}
    {roles : List String} (hgroup : group.isGroup = true) (hsaved : group.saved = true)
    (hid : group.id = some id)
    (hx : (s.resolveTarget owner group.bundle PluginId.membership).1 = .ok x)
    (h : s.addCreator group owner roles = (.error f, s')) :
    ∃ name, id = .name name ∧ f = noSerialId ∧ s' = s := by
  cases id with
  | int n =>
    obtain ⟨r, hr⟩ := addCreator_eq_ok hs (groupId_of_int hgroup hsaved hid) hx roles
    rw [h] at hr
    cases hr
  | name n =>
    rw [addCreator_eq_error (groupId_of_name hgroup hid)] at h
    cases h
    exact ⟨n, rfl, rfl, rfl⟩

/-- What a failed creation leaves: everything as it was, or everything but the entity under the name
that the group came with. -/
inductive Fails (s : Store) (group : Entity) (f : Failure) (s' : Store) : Prop
  | unchanged : f ≠ noSerialId → s'.relations = s.relations → s'.entities = s.entities →
      Fails s group f s'
  | undone (name : String) : f = noSerialId → s'.relations = s.relations →
      group.id = some (.name name) →
      (∀ k, s'.entities.load k =
        if ⟨EntityTypeId.group, .name name⟩ = k then none else s.entities.load k) →
      Fails s group f s'

theorem Agrees.fails {s₁ : Store} (ha : s.Agrees s₁) (h : s₁.Fails group f s') :
    s.Fails group f s' := by
  cases h with
  | unchanged hf hrel hentities =>
    exact .unchanged hf (hrel.trans ha.relations) (hentities.trans ha.entities)
  | undone name hf hrel hid hload =>
    refine .undone name hf (hrel.trans ha.relations) hid fun k => ?_
    rw [hload, ha.entities]

theorem saveEntity_cases (s : Store) (e : Entity) :
    (∃ f, s.saveEntity e = (.error f, s) ∧ f ≠ noSerialId) ∨
      ∃ id saved entities, s.saveEntity e = (.ok saved, { s with entities }) ∧
        (e.id = some id ∨ ∃ n, id = .int n) ∧ saved = { e with id := some id, saved := true } ∧
        entities.rows = s.entities.rows.insert ⟨e.type, id⟩ saved := by
  unfold saveEntity
  cases hsave : s.entities.save s.types e with
  | error f =>
    refine .inl ⟨f, rfl, ?_⟩
    rcases EntityStore.save_eq_error hsave with rfl | rfl
    · exact nofun
    · exact nofun
  | ok p =>
    obtain ⟨saved, entities⟩ := p
    obtain ⟨id, hid, hsaved, hrows⟩ := EntityStore.save_eq_ok hsave
    refine .inr ⟨id, saved, entities, rfl, ?_, hsaved, hrows⟩
    rcases hid with hid | ⟨-, hid⟩
    · exact .inl hid
    · exact .inr ⟨_, hid⟩

theorem load_dropEntity {e : Entity} {k : EntityKey} (hk : e.key? = some k) (j : EntityKey) :
    (s.dropEntity e).entities.load j = if k = j then none else s.entities.load j := by
  simp only [dropEntity, hk]
  exact s.entities.load_delete k j

theorem load_dropEntity_saved {k : EntityKey} {saved : Entity} {entities : EntityStore}
    (hrows : entities.rows = s.entities.rows.insert k saved) (hkey : saved.key? = some k)
    (j : EntityKey) :
    (dropEntity { s with entities } saved).entities.load j =
      if k = j then none else s.entities.load j := by
  rw [load_dropEntity hkey]
  split
  · rfl
  · next hkj =>
    unfold EntityStore.load
    rw [hrows, OrderedMap.get?_insert, if_neg hkj]

theorem relations_dropEntity (s : Store) (e : Entity) :
    (s.dropEntity e).relations = s.relations := by
  unfold dropEntity
  split
  · rfl
  · rfl

theorem addGroup_fails (hs : s.Reachable) (hgroup : group.isGroup = true)
    {member : Option Entity} {roles : List String}
    (hmember : ∀ owner, member = some owner →
      ∃ x, (s.resolveTarget owner group.bundle PluginId.membership).1 = .ok x)
    (h : (s.addGroup group member roles).1 = .error f) :
    s.Fails group f (s.addGroup group member roles).2 := by
  have htype : group.type = EntityTypeId.group := Entity.isGroup_iff.mp hgroup
  have hreachable := hs.saveEntity group
  unfold addGroup at h ⊢
  rcases s.saveEntity_cases group with
    ⟨g, hsave, hg⟩ | ⟨id, saved, entities, hsave, hid, hsaved, hrows⟩
  · rw [hsave] at h ⊢
    cases h
    exact .unchanged hg rfl rfl
  · rw [hsave] at h hreachable ⊢
    cases member with
    | none => cases h
    | some owner =>
      dsimp only at h hreachable ⊢
      -- the check before the save holds after it, since the installed plugins are the same
      rcases hadd : addCreator { s with entities } saved owner roles with ⟨g | r, s₂⟩
      · rw [hadd] at h
        cases h
        have hgroup' : saved.isGroup = true := by rwa [hsaved]
        have hbundle : saved.bundle = group.bundle := by rw [hsaved]
        have hkey : saved.key? = some ⟨EntityTypeId.group, id⟩ := by
          rw [hsaved, Entity.key?_eq_some_iff]
          exact ⟨rfl, rfl, htype.symm⟩
        obtain ⟨x, hx⟩ := hmember owner rfl
        rw [← s.resolveTarget_congr { s with entities } rfl, ← hbundle] at hx
        obtain ⟨name, rfl, rfl, rfl⟩ := addCreator_fails hreachable hgroup' (by rw [hsaved])
          (by rw [hsaved]) hx hadd
        rcases hid with hid | ⟨n, hn⟩
        · rw [htype] at hrows
          exact .undone name rfl (relations_dropEntity _ saved) hid
            (load_dropEntity_saved hrows hkey)
        · cases hn
      · rw [hadd] at h
        cases h

theorem groupType_eq_error {g : String} (h : s.registry.groupType g = .error f) :
    f ≠ noSerialId := by
  rintro rfl
  unfold Registry.groupType noSerialId at h
  split at h
  · cases h
  · cases h

theorem Fails.of_owner (o : Option Int64) (h : s.Fails { group with owner := o } f s') :
    s.Fails group f s' := by
  cases h with
  | unchanged hf hrel hentities => exact .unchanged hf hrel hentities
  | undone name hf hrel hid hload => exact .undone name hf hrel hid hload

theorem createGroup_fails (hs : s.Reachable) {creator : Option Entity}
    (h : (s.createGroup group creator).1 = .error f) :
    s.Fails group f (s.createGroup group creator).2 := by
  unfold createGroup at h ⊢
  by_cases hgroup : group.isGroup = true
  · rw [if_neg (by simp [hgroup])] at h ⊢
    cases htype : s.registry.groupType group.bundle with
    | error g =>
      rw [htype] at h
      cases h
      exact .unchanged (groupType_eq_error htype) rfl rfl
    | ok type =>
      rw [htype] at h
      dsimp only at h ⊢
      generalize group.owner.or ((s.ownerOf group creator).bind Entity.serial?) = o at h ⊢
      have howned : Entity.isGroup { group with owner := o } = true := hgroup
      cases hm : if type.creatorJoins = true then s.ownerOf group creator else none with
      | none =>
        rw [hm] at h
        have hnone : ∀ owner, none = some owner → ∃ x,
            (s.resolveTarget owner group.bundle PluginId.membership).1 = .ok x := nofun
        exact .of_owner o (addGroup_fails hs howned hnone h)
      | some member =>
        rw [hm] at h
        dsimp only at h ⊢
        have ha := s.agrees_resolveTarget member group.bundle PluginId.membership
        have hreachable := hs.resolveTarget member group.bundle PluginId.membership
        rcases hr : s.resolveTarget member group.bundle PluginId.membership with ⟨g | x, s₁⟩
        · rw [hr] at h ha
          cases h
          refine .unchanged ?_ ha.relations ha.entities
          exact resolveTarget_eq_error (congrArg Prod.fst hr)
        · rw [hr] at h ha hreachable
          dsimp only at h ha hreachable ⊢
          have hmember : ∀ owner, some member = some owner → ∃ x,
              (s₁.resolveTarget owner group.bundle PluginId.membership).1 = .ok x := by
            rintro owner ⟨⟩
            have hx := congrArg Prod.fst hr
            exact ⟨x, (s.resolveTarget_congr s₁ ha.installed ..).trans hx⟩
          exact ha.fails (.of_owner o (addGroup_fails hreachable howned hmember h))
  · rw [if_pos (by simp [hgroup])] at h ⊢
    cases h
    exact .unchanged nofun rfl rfl

/-- A creation that fails leaves the relations as they were. It leaves an entity as it was too, unless
that had the name under which the group was saved and could not get its member. -/
theorem load_createGroup_ne_iff (hs : s.Reachable) {creator : Option Entity}
    (h : (s.createGroup group creator).1 = .error f) :
    (s.createGroup group creator).2.relations = s.relations ∧
    ∀ k, (s.createGroup group creator).2.entities.load k ≠ s.entities.load k ↔
      f = .unsavedGroup "Cannot add an entity to an unsaved group." ∧
        k.type = EntityTypeId.group ∧ group.id = some k.id ∧ (s.entities.load k).isSome := by
  cases createGroup_fails hs h with
  | unchanged hf hrel hentities =>
    refine ⟨hrel, fun k => ?_⟩
    constructor
    · intro hne
      rw [hentities] at hne
      exact absurd rfl hne
    · rintro ⟨rfl, -⟩
      exact absurd rfl hf
  | undone name hf hrel hid hload =>
    refine ⟨hrel, fun k => ?_⟩
    rw [hload]
    constructor
    · intro hne
      split at hne
      · next hk =>
        subst hk
        exact ⟨hf, rfl, hid, Option.isSome_iff_ne_none.mpr hne.symm⟩
      · exact absurd rfl hne
    · rintro ⟨-, htype, hkid, hsome⟩
      have hk : ⟨EntityTypeId.group, .name name⟩ = k := by
        rw [hid] at hkid
        exact EntityKey.ext htype.symm (Option.some.inj hkid)
      rw [if_pos hk]
      exact (Option.isSome_iff_ne_none.mp hsome).symm

def user : Entity :=
  { Entity.create default EntityTypeId.user EntityTypeId.user with
    id := some (.int 1), saved := true }

def named (label : String) : Entity :=
  { Entity.group default "club" label with id := some (.name "x") }

/-- Where nothing has the name, a creation that fails leaves no trace. -/
theorem load_createGroup_fresh : (club.createGroup (named "New") (some user)).1 =
      .error (.unsavedGroup "Cannot add an entity to an unsaved group.") ∧
    ∀ k, (club.createGroup (named "New") (some user)).2.entities.load k =
      club.entities.load k := by
  have h : (club.createGroup (named "New") (some user)).1 =
      .error (.unsavedGroup "Cannot add an entity to an unsaved group.") := rfl
  refine ⟨h, fun k => ?_⟩
  by_contra hne
  obtain ⟨-, htype, hid, hsome⟩ := ((load_createGroup_ne_iff reachable_club h).2 k).mp hne
  have hk : k = ⟨EntityTypeId.group, .name "x"⟩ := EntityKey.ext htype (Option.some.inj hid).symm
  rw [hk] at hsome
  exact absurd hsome (by decide)

def clubs : Store := (club.saveEntity (named "Old")).2

/-- What is stored under the name is lost when a club with that name gets no member. -/
theorem load_createGroup_lost : clubs.Reachable ∧
    (clubs.createGroup (named "New") (some user)).1 =
      .error (.unsavedGroup "Cannot add an entity to an unsaved group.") ∧
    (clubs.entities.load ⟨EntityTypeId.group, .name "x"⟩).isSome = true ∧
    (clubs.createGroup (named "New") (some user)).2.entities.load
      ⟨EntityTypeId.group, .name "x"⟩ = none := by
  refine ⟨reachable_club.saveEntity _, ?_, ?_, ?_⟩
  · rfl
  · rfl
  · rfl

end Store

end Grouping
