import Grouping.Proofs.Assignment
import Grouping.Proofs.GroupCreation

/-! # Joining a group

Content and members are added with validation, the creator of a new group is not validated. In both
cases at most one relation comes in, and its link is the one with which the entity joins the group.
-/

namespace Grouping

/-- The second store holds the entity under its key, the others as the first one does. -/
def EntityStore.Puts (x : EntityStore) (e : Entity) (y : EntityStore) : Prop :=
  ∃ k, e.key? = some k ∧ y.rows = x.rows.insert k e

theorem EntityStore.Puts.load {x y : EntityStore} {e : Entity} (h : x.Puts e y) (j : EntityKey) :
    y.load j = if e.key? = some j then some e else x.load j := by
  obtain ⟨k, hk, hrows⟩ := h
  unfold EntityStore.load
  rw [hrows, OrderedMap.get?_insert, hk]
  simp only [Option.some.injEq]

theorem EntityStore.Puts.isSome_load {x y : EntityStore} {e : Entity} (h : x.Puts e y)
    {j : EntityKey} (hj : (x.load j).isSome) : (y.load j).isSome := by
  rw [h.load]
  split
  · rfl
  · exact hj

theorem EntityStore.Puts.keyed {x y : EntityStore} {e : Entity} (h : x.Puts e y) (hx : x.Keyed) :
    y.Keyed := by
  obtain ⟨k, hk, hrows⟩ := h
  unfold EntityStore.Keyed
  rw [hrows]
  exact OrderedMap.All.insert hx hk

namespace Store

variable {s s' s₁ : Store} {entity group saved owner : Entity} {creator : Option Entity}
  {plugin : String} {r : Relation}

/-! ## With validation -/

/-- An addition lets nothing in, as nothing joins or there is no room, or it lets in one relation. -/
inductive Admission (s : Store) (entity group : Entity) (plugin : String) (s' : Store) : Prop
  | refused : s.Agrees s' → (∀ i l, s.Joins entity group plugin i l → ¬ s.Validates l) →
      Admission s entity group plugin s'
  | joined (i : Installation) (r : Relation) : s.Joins entity group plugin i r.link →
      s.Validates r.link → s.Gains s' r → Admission s entity group plugin s'

theorem SavesDraft.admission {o : Outcome Store Saving} (hs : s.Reachable)
    (h : s.SavesDraft entity group plugin o) : s.Admission entity group plugin o.2 := by
  cases h with
  | failed hdraft =>
    have ha := s.agrees_draft entity group plugin
    rw [hdraft] at ha
    exact .refused ha fun _ _ hjoins => absurd hjoins (not_joins_of_draft hdraft)
  | @saved r _ owner roles hdraft =>
    rcases saveValidated_joining hs hdraft { r with owner, roles } rfl rfl with
      ⟨vs, s₁, hsave, ha, hno⟩ | ⟨i, r', s₁, hsave, hjoins, hv, hgains⟩
    · rw [hsave]
      exact .refused ha hno
    · rw [hsave]
      exact .joined i r' hjoins hv hgains

theorem admission_addContent (hs : s.Reachable) (group entity : Entity) (plugin : String) :
    s.Admission entity group plugin (s.addContent group entity plugin).2 :=
  (s.savesDraft_addContent ..).admission hs

theorem admission_addMember (hs : s.Reachable) (group user : Entity) (roles : List String) :
    s.Admission user group PluginId.membership (s.addMember group user roles).2 :=
  (s.savesDraft_addMember ..).admission hs

/-! ## Without validation -/

theorem Writes.roles {r' : Relation} {t : RelationTable} (hw : s.Writes r r' t) :
    r'.roles = r.roles := by
  cases hw with
  | add i => rfl
  | rewrite i id old => rfl

/-- The membership of a creator is a draft that gets its owner and its roles and is written. -/
theorem writes_addCreator {roles : List String}
    (h : s.addCreator group owner roles = (.ok r, s')) :
    ∃ r₀ i t s₁, r₀.id = none ∧ r₀.groupType = group.bundle ∧ r₀.roles = roles ∧
      s.Joins owner group PluginId.membership i r₀.link ∧ s.Writes r₀ r t ∧ s.Agrees s₁ ∧
      s' = Store.report { s₁ with relations := t } r := by
  have ha := s.agrees_draft owner group PluginId.membership
  unfold addCreator at h
  rcases hdraft : s.draft owner group PluginId.membership with ⟨f | r₀, s₁⟩
  · rw [hdraft] at h
    cases h
  · rw [hdraft] at h ha
    obtain ⟨hid, i, hjoins⟩ := joins_of_draft hdraft
    obtain ⟨_, hd⟩ := drafts_of_draft hdraft
    rcases s₁.save_cases { r₀ with owner := owner.serial?, roles } with
      ⟨f, hsave⟩ | ⟨r', t, hw, hsave⟩
    · dsimp only at h
      rw [hsave] at h
      cases h
    · dsimp only at h
      rw [hsave] at h
      cases h
      exact ⟨{ r₀ with owner := owner.serial?, roles }, i, t, s₁.warm, hid, hd.groupType, rfl,
        hjoins, ha.writes hw, ha.trans s₁.agrees_warm, rfl⟩

theorem gains_addCreator {roles : List String}
    (h : s.addCreator group owner roles = (.ok r, s')) :
    ∃ i, s.Joins owner group PluginId.membership i r.link ∧ s.Gains s' r := by
  obtain ⟨r₀, i, t, s₁, hid, -, -, hjoins, hw, ha, rfl⟩ := writes_addCreator h
  obtain ⟨hlink, hgains⟩ := hw.gains hid ha
  exact ⟨i, hlink ▸ hjoins, hgains⟩

/-- The entity that a new group gets as its first member. -/
def joiner? (s : Store) (group : Entity) (creator : Option Entity) : Option Entity :=
  match s.registry.groupType group.bundle with
  | .error _ => none
  | .ok type => if type.creatorJoins then s.ownerOf group creator else none

/-- The group is stored, and its first member joined it if there is one. -/
inductive Founds (s : Store) (saved : Entity) : Option Entity → Store → Prop
  | alone {entities : EntityStore} {s' : Store} : s.entities.Puts saved entities →
      Agrees { s with entities } s' → Founds s saved none s'
  | joined {entities : EntityStore} {s' : Store} {member : Entity} {i : Installation}
      {r : Relation} : s.entities.Puts saved entities →
      s.Joins member saved PluginId.membership i r.link → Gains { s with entities } s' r →
      Founds s saved (some member) s'

theorem Agrees.withEntities (ha : s.Agrees s₁) (entities : EntityStore) :
    Agrees { s with entities } { s₁ with entities } :=
  ⟨ha.types, rfl, ha.relations, ha.staleTags, ha.now, ha.groupTypes, ha.configured, ha.installed⟩

theorem Founds.of_agrees_left {member : Option Entity} (ha : s.Agrees s₁)
    (h : s₁.Founds saved member s') : s.Founds saved member s' := by
  cases h with
  | alone hputs hagrees =>
    exact .alone (ha.entities ▸ hputs) ((ha.withEntities _).trans hagrees)
  | joined hputs hjoins hgains =>
    exact .joined (ha.entities ▸ hputs) (hjoins.congr ha.installed.symm)
      (hgains.of_agrees_left (ha.withEntities _))

theorem Sound.puts {entities : EntityStore} (hs : s.Sound) (h : s.entities.Puts saved entities) :
    Sound { s with entities } :=
  ⟨hs.relations, h.keyed hs.entities, hs.registry⟩

theorem saveEntity_puts (s : Store) (e : Entity) :
    (∃ f, s.saveEntity e = (.error f, s)) ∨ ∃ saved entities,
      s.saveEntity e = (.ok saved, { s with entities }) ∧ s.entities.Puts saved entities := by
  rcases s.saveEntity_cases e with ⟨f, hsave, -⟩ | ⟨id, saved, entities, hsave, -, hsaved, hrows⟩
  · exact .inl ⟨f, hsave⟩
  · refine .inr ⟨saved, entities, hsave, ⟨e.type, id⟩, ?_, hrows⟩
    rw [hsaved, Entity.key?_eq_some_iff]
    exact ⟨rfl, rfl, rfl⟩

/-- A group that is added is saved, and then its member is added if it has one. -/
theorem addGroup_eq_ok {member : Option Entity} {roles : List String}
    (h : s.addGroup group member roles = (.ok saved, s')) :
    ∃ entities, s.saveEntity group = (.ok saved, { s with entities }) ∧
      s.entities.Puts saved entities ∧ (member = none → s' = { s with entities }) ∧
      ∀ m, member = some m →
        ∃ r, addCreator { s with entities } saved m roles = (.ok r, s') := by
  unfold addGroup at h
  rcases s.saveEntity_puts group with ⟨f, hsave⟩ | ⟨stored, entities, hsave, hputs⟩
  · rw [hsave] at h
    cases h
  · rw [hsave] at h
    cases member with
    | none =>
      cases h
      exact ⟨entities, hsave, hputs, fun _ => rfl, nofun⟩
    | some member =>
      dsimp only at h
      rcases hadd : addCreator { s with entities } stored member roles with ⟨f | r, s₁⟩
      · rw [hadd] at h
        cases h
      · rw [hadd] at h
        cases h
        refine ⟨entities, hsave, hputs, nofun, ?_⟩
        rintro m ⟨⟩
        exact ⟨r, hadd⟩

theorem founds_addGroup {member : Option Entity} {roles : List String}
    (h : s.addGroup group member roles = (.ok saved, s')) : s.Founds saved member s' := by
  obtain ⟨entities, -, hputs, halone, hjoined⟩ := addGroup_eq_ok h
  cases member with
  | none =>
    rw [halone rfl]
    exact .alone hputs (.refl _)
  | some member =>
    obtain ⟨r, hadd⟩ := hjoined member rfl
    obtain ⟨i, hjoins, hgains⟩ := gains_addCreator hadd
    exact .joined hputs (hjoins.congr rfl) hgains

/-- A group that is created gets an owner at most before it is added. -/
theorem createGroup_eq_ok (h : s.createGroup group creator = (.ok saved, s')) :
    ∃ type owner s₁, group.isGroup = true ∧ s.registry.groupType group.bundle = .ok type ∧
      s.Agrees s₁ ∧ s₁.addGroup { group with owner } (s.joiner? group creator) type.creatorRoles =
        (.ok saved, s') := by
  unfold createGroup at h
  unfold joiner?
  by_cases hgroup : group.isGroup = true
  · rw [if_neg (by simp [hgroup])] at h
    cases htype : s.registry.groupType group.bundle with
    | error f =>
      rw [htype] at h
      cases h
    | ok type =>
      rw [htype] at h
      dsimp only at h ⊢
      cases hm : if type.creatorJoins = true then s.ownerOf group creator else none with
      | none =>
        rw [hm] at h
        exact ⟨type, _, s, hgroup, rfl, .refl s, h⟩
      | some member =>
        rw [hm] at h
        have ha := s.agrees_resolveTarget member group.bundle PluginId.membership
        dsimp only at h ⊢
        rcases hr : s.resolveTarget member group.bundle PluginId.membership with ⟨f | x, s₁⟩
        · rw [hr] at h
          cases h
        · rw [hr] at h ha
          exact ⟨type, _, s₁, hgroup, rfl, ha, h⟩
  · rw [if_pos (by simp [hgroup])] at h
    cases h

theorem founds_createGroup (h : (s.createGroup group creator).1 = .ok saved) :
    s.Founds saved (s.joiner? group creator) (s.createGroup group creator).2 := by
  obtain ⟨type, owner, s₁, -, -, ha, hadd⟩ := createGroup_eq_ok (Prod.ext h rfl)
  exact .of_agrees_left ha (founds_addGroup hadd)

end Store

end Grouping
