import Grouping.Proofs.Assignment

/-! # What stands in the way of a draft

A draft is refused for the first of five obstacles, which are looked for in a fixed order: two about the
group, one about the entity, and two about the plugin. Where none of them stands in the way there is a
draft, and it is the one relation that the group, the entity and the installation make up.
-/

namespace Grouping

inductive Obstacle where
  | notAGroup
  | unsavedGroup
  | unsavedEntity
  /-- The plugin is not installed, or it is for entities of another type. -/
  | unfitPlugin
  | otherBundle
  deriving DecidableEq

namespace Obstacle

/-- The order in which obstacles are looked for. -/
def inOrder : List Obstacle := [notAGroup, unsavedGroup, unsavedEntity, unfitPlugin, otherBundle]

def failure (entity group : Entity) (plugin : String) : Obstacle → Failure
  | notAGroup => .notAGroup group.displayLabel
  | unsavedGroup => .unsavedGroup "Cannot add an entity to an unsaved group."
  | unsavedEntity => .unsavedEntity "Cannot add an unsaved entity to a group."
  | unfitPlugin =>
    .invalidPlugin "Invalid plugin provided for adding the entity to the group."
  | otherBundle => .bundleMismatch plugin entity.bundle

end Obstacle

namespace Store

variable {s : Store} {entity group : Entity} {plugin : String} {f : Failure} {r : Relation}

/-- The obstacle stands in the way, whether or not others do. -/
def Hinders (s : Store) (entity group : Entity) (plugin : String) : Obstacle → Bool
  | .notAGroup => group.type ≠ EntityTypeId.group
  | .unsavedGroup => ! (group.saved && (group.id.bind EntityId.int?).isSome)
  | .unsavedEntity => ! (entity.saved && entity.id.isSome)
  | .unfitPlugin =>
    ((s.registry.installedOn group.bundle).get? plugin).all fun i =>
      i.enabler.entityType ≠ entity.type
  | .otherBundle =>
    ((s.registry.installedOn group.bundle).get? plugin).any fun i =>
      i.enabler.bundle.any (· ≠ entity.bundle)

/-- The first obstacle in the way of a draft. -/
def obstacle? (s : Store) (entity group : Entity) (plugin : String) : Option Obstacle :=
  Obstacle.inOrder.find? (s.Hinders entity group plugin)

theorem hinders_notAGroup : s.Hinders entity group plugin .notAGroup = ! group.isGroup := by
  simp [Hinders, Entity.isGroup]

theorem hinders_unsavedGroup :
    s.Hinders entity group plugin .unsavedGroup = group.serial?.isNone := by
  unfold Hinders Entity.serial?
  cases group.saved with
  | false => simp
  | true => simp

theorem hinders_unsavedEntity :
    s.Hinders entity group plugin .unsavedEntity = entity.key?.isNone := by
  unfold Hinders Entity.key?
  cases entity.saved with
  | false => simp
  | true => simp

/-- Nothing but the last two obstacles makes an installation fail to serve. -/
theorem serving_cases (s : Store) (entity group : Entity) (plugin : String) :
    s.Hinders entity group plugin .unfitPlugin = true ∧
      serving (s.registry.installedOn group.bundle) entity plugin =
        .error (Obstacle.unfitPlugin.failure entity group plugin) ∨
    s.Hinders entity group plugin .unfitPlugin = false ∧
      (s.Hinders entity group plugin .otherBundle = true ∧
        serving (s.registry.installedOn group.bundle) entity plugin =
          .error (Obstacle.otherBundle.failure entity group plugin) ∨
      s.Hinders entity group plugin .otherBundle = false ∧
        ∃ i, serving (s.registry.installedOn group.bundle) entity plugin = .ok i) := by
  unfold serving Hinders
  cases (s.registry.installedOn group.bundle).get? plugin with
  | none => exact .inl ⟨rfl, rfl⟩
  | some i =>
    dsimp only [Option.all_some, Option.any_some]
    split
    · next htype => exact .inl ⟨decide_eq_true htype, rfl⟩
    · next htype =>
      refine .inr ⟨decide_eq_false htype, ?_⟩
      split
      · next hbundle => exact .inl ⟨hbundle, rfl⟩
      · next hbundle => exact .inr ⟨Bool.eq_false_of_not_eq_true hbundle, i, rfl⟩

/-- A draft is refused for its first obstacle, or there is none and it is made. -/
theorem draft_cases (s : Store) (entity group : Entity) (plugin : String) :
    (∃ o, s.obstacle? entity group plugin = some o ∧
      (s.draft entity group plugin).1 = .error (o.failure entity group plugin)) ∨
    s.obstacle? entity group plugin = none ∧ ∃ r, (s.draft entity group plugin).1 = .ok r := by
  simp only [obstacle?, Obstacle.inOrder, List.find?_cons, hinders_notAGroup, hinders_unsavedGroup,
    hinders_unsavedEntity, draft_eq]
  -- the data decide in the order in which the obstacles are looked for
  cases hgroup : group.isGroup with
  | false => exact .inl ⟨.notAGroup, rfl, by simp [groupId, hgroup, Except.bind, Obstacle.failure]⟩
  | true =>
    cases hserial : group.serial? with
    | none =>
      exact .inl ⟨.unsavedGroup, rfl,
        by simp [groupId, hgroup, hserial, Except.bind, Obstacle.failure]⟩
    | some g =>
      have hid : groupId group "Cannot add an entity to an unsaved group." = .ok g := by
        simp [groupId, hgroup, hserial]
      cases hkey : entity.key? with
      | none =>
        exact .inl ⟨.unsavedEntity, rfl,
          by simp [hid, resolveTarget, hkey, Except.bind, Except.map, Obstacle.failure]⟩
      | some k =>
        rw [hid, resolveTarget_fst hkey]
        rcases s.serving_cases entity group plugin with
          ⟨hunfit, hserving⟩ | ⟨hfit, ⟨hother, hserving⟩ | ⟨hsame, i, hserving⟩⟩
        · exact .inl ⟨.unfitPlugin, by simp [hunfit], by rw [hserving]; rfl⟩
        · exact .inl ⟨.otherBundle, by simp [hfit, hother], by rw [hserving]; rfl⟩
        · exact .inr ⟨by simp [hfit, hsame], _, by rw [hserving]; rfl⟩

theorem draft_eq_error_iff : (s.draft entity group plugin).1 = .error f ↔
    ∃ o, s.obstacle? entity group plugin = some o ∧ f = o.failure entity group plugin := by
  rcases s.draft_cases entity group plugin with ⟨o, ho, hdraft⟩ | ⟨hnone, r, hdraft⟩
  · simp [ho, hdraft, eq_comm]
  · simp [hnone, hdraft]

theorem exists_draft_iff_obstacle? : (∃ r, (s.draft entity group plugin).1 = .ok r) ↔
    s.obstacle? entity group plugin = none := by
  rcases s.draft_cases entity group plugin with ⟨o, ho, hdraft⟩ | ⟨hnone, r, hdraft⟩
  · simp [ho, hdraft]
  · simp [hnone, hdraft]

theorem columnFor_resolveTarget (s : Store) (entity : Entity) (groupType plugin type : String) :
    ((s.resolveTarget entity groupType plugin).2.columnFor type).1 = (s.columnFor type).1 := by
  unfold resolveTarget
  split
  · rfl
  · rfl

/-- A draft keeps its target in the column that is resolved for the type of the entity. -/
theorem column_of_draft (h : (s.draft entity group plugin).1 = .ok r) :
    r.target.column = (s.columnFor entity.type).1 := by
  rw [draft_eq, columnFor_resolveTarget] at h
  cases hgroup : groupId group "Cannot add an entity to an unsaved group." with
  | error f =>
    rw [hgroup] at h
    cases h
  | ok g =>
    cases htarget : (s.resolveTarget entity group.bundle plugin).1 with
    | error f =>
      rw [hgroup, htarget] at h
      cases h
    | ok x =>
      rw [hgroup, htarget] at h
      cases h
      rfl

/-- What a saved entity and a saved group need to be brought together is an installation for them. -/
theorem exists_draft_iff : (∃ r, (s.draft entity group plugin).1 = .ok r) ↔
    group.type = EntityTypeId.group ∧ group.saved = true ∧ (∃ n, group.id = some (.int n)) ∧
      entity.saved = true ∧ entity.id.isSome = true ∧
      ∃ i, (s.registry.installedOn group.bundle).get? plugin = some i ∧
        i.enabler.accepts entity = true := by
  constructor
  · rintro ⟨r, hr⟩
    obtain ⟨-, i, hjoins⟩ := joins_of_draft (Prod.ext hr rfl)
    obtain ⟨hsaved, hid, htype⟩ := Entity.key?_eq_some_iff.mp hjoins.groupKey
    obtain ⟨hsaved', hid', -⟩ := Entity.key?_eq_some_iff.mp hjoins.key
    exact ⟨htype.symm, hsaved, ⟨_, hid⟩, hsaved', Option.isSome_of_eq_some hid', i,
      hjoins.installed, hjoins.accepts⟩
  · rintro ⟨htype, hsaved, ⟨n, hid⟩, hsaved', hid', i, hi, haccepts⟩
    obtain ⟨id, hid'⟩ := Option.isSome_iff_exists.mp hid'
    have hjoins : s.Joins entity group plugin i ⟨n, i.contentType, plugin, ⟨entity.type, id⟩⟩ :=
      { groupKey := Entity.key?_eq_some_iff.mpr ⟨hsaved, hid, htype.symm⟩
        key := Entity.key?_eq_some_iff.mpr ⟨hsaved', hid', rfl⟩
        installed := hi
        accepts := haccepts
        contentType := rfl
        plugin_eq := rfl }
    obtain ⟨r, s', hdraft, -⟩ := draft_of_joins hjoins
    exact ⟨r, by rw [hdraft]⟩

/-- A relation is drafted exactly if group and entity are saved, the group under a serial id, and an
installation accepts the entity; otherwise the first obstacle is reported. The draft is what the group,
the installation and the entity make up, with the column that is resolved for the type of the entity. -/
theorem draft_answers (s : Store) (entity group : Entity) (plugin : String) :
    ((∃ r, (s.draft entity group plugin).1 = .ok r) ↔
      group.type = EntityTypeId.group ∧ group.saved = true ∧ (∃ n, group.id = some (.int n)) ∧
        entity.saved = true ∧ entity.id.isSome = true ∧
        ∃ i, (s.registry.installedOn group.bundle).get? plugin = some i ∧
          i.enabler.accepts entity = true) ∧
    (∀ f, (s.draft entity group plugin).1 = .error f ↔
      ∃ o, s.obstacle? entity group plugin = some o ∧ f = o.failure entity group plugin) ∧
    ∀ r, (s.draft entity group plugin).1 = .ok r → ∃ i, s.Drafts entity group plugin r i ∧
      i.enabler.accepts entity = true ∧ r.target.column = (s.columnFor entity.type).1 := by
  refine ⟨exists_draft_iff, fun f => draft_eq_error_iff, fun r hr => ?_⟩
  obtain ⟨-, j, hjoins⟩ := joins_of_draft (Prod.ext hr rfl)
  obtain ⟨i, hdrafts⟩ := drafts_of_draft (Prod.ext hr rfl)
  obtain rfl : i = j := Option.some.inj (hdrafts.installed.symm.trans hjoins.installed)
  exact ⟨i, hdrafts, hjoins.accepts, column_of_draft hr⟩

end Store

end Grouping
