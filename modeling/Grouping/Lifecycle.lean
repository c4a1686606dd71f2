import Grouping.Store.Cardinality

/-! # The life of groups

Creating a group with its creator as a member, adding content and members, and deleting groups and
entities together with the relations that involve them.
-/

namespace Grouping.Store

def saveEntity (s : Store) (e : Entity) : Outcome Store Entity :=
  match s.entities.save s.types e with
  | .error f => (.error f, s)
  | .ok (e, entities) => (.ok e, { s with entities })

/-- Removes the stored entity with the key of `e`, if `e` has one. -/
def dropEntity (s : Store) (e : Entity) : Store :=
  match e.key? with
  | none => s
  | some k => { s with entities := s.entities.delete k }

/-- The creator, or the stored user that owns the group. -/
def ownerOf (s : Store) (group : Entity) (creator : Option Entity) : Option Entity :=
  match creator with
  | some c => some c
  | none => group.owner.bind fun n => s.entities.load ⟨EntityTypeId.user, .int n⟩

/-- The membership that a creator gets, saved without looking at limits. -/
def addCreator (s : Store) (group owner : Entity) (roles : List String) : Outcome Store Relation :=
  match s.draft owner group PluginId.membership with
  | (.error f, s) => (.error f, s)
  | (.ok r, s) => s.save { r with owner := owner.serial?, roles }

/-- Saves a group; its creator becomes a member if there is one. When the membership cannot be
saved, the group is removed again. -/
def addGroup (s : Store) (group : Entity) (member : Option Entity) (roles : List String) :
    Outcome Store Entity :=
  match s.saveEntity group with
  | (.error f, s) => (.error f, s)
  | (.ok group, s) =>
    match member with
    | none => (.ok group, s)
    | some owner =>
      match s.addCreator group owner roles with
      | (.ok _, s) => (.ok group, s)
      | (.error f, s) => (.error f, s.dropEntity group)

/-- Creates a group. Unless its type says otherwise, the creator or else the owner becomes a member;
that this is possible is checked before anything is stored. -/
def createGroup (s : Store) (group : Entity) (creator : Option Entity) : Outcome Store Entity :=
  if ¬ group.isGroup then (.error (.notAGroup group.displayLabel), s)
  else
    match s.registry.groupType group.bundle with
    | .error f => (.error f, s)
    | .ok type =>
      let owner := s.ownerOf group creator
      let group := { group with owner := group.owner.or (owner.bind Entity.serial?) }
      match if type.creatorJoins then owner else none with
      | none => s.addGroup group none []
      | some member =>
        match s.resolveTarget member group.bundle PluginId.membership with
        | (.error f, s) => (.error f, s)
        | (.ok _, s) => s.addGroup group (some member) type.creatorRoles

/-- Adds an entity to a group within the limits. -/
def addContent (s : Store) (group entity : Entity) (plugin : String) : Outcome Store Saving :=
  match s.draft entity group plugin with
  | (.error f, s) => (.error f, s)
  | (.ok r, s) => s.saveValidated { r with owner := entity.owner }

/-- Makes a user a member of a group within the limits. -/
def addMember (s : Store) (group user : Entity) (roles : List String) : Outcome Store Saving :=
  match s.draft user group PluginId.membership with
  | (.error f, s) => (.error f, s)
  | (.ok r, s) => s.saveValidated { r with owner := user.serial?, roles }

/-- The entities in a group that still exist. -/
def contentEntities (s : Store) (group : Entity) (plugin : Option String) :
    Except Failure (List Entity) :=
  (s.byGroup group plugin).map fun rs => rs.filterMap s.loadTarget

/-- The first membership in the group whose target has the user's id. -/
def member? (s : Store) (group user : Entity) : Except Failure (Option Relation) :=
  match user.key? with
  | none => .ok none
  | some k => (s.byTargetId group PluginId.membership k.id).map List.head?

/-- Deletes a group, the relations in it and the relations to it. -/
def deleteGroup (s : Store) (group : Entity) : Outcome Store Nat :=
  match s.deleteByGroup group with
  | (.error f, s) => (.error f, s)
  | (.ok inside, s) =>
    match s.deleteByEntity group with
    | (.error f, s) => (.error f, s)
    | (.ok outside, s) => (.ok (inside + outside), s.dropEntity group)

/-- Deletes an entity and the relations to it. -/
def deleteEntity (s : Store) (e : Entity) : Outcome Store Nat :=
  if e.isGroup then s.deleteGroup e
  else
    match s.deleteByEntity e with
    | (.error f, s) => (.error f, s)
    | (.ok n, s) => (.ok n, s.dropEntity e)

/-- Uninstalls a plugin after deleting the relations through it. -/
def uninstallPlugin (s : Store) (groupType plugin : String) : Outcome Store Nat :=
  let s := s.warm
  match s.registry.get groupType plugin with
  | .error f => (.error f, s)
  | .ok i =>
    if i.enabler.isEnforced then (.error (Registry.enforcedFailure plugin), s)
    else
      let (n, s) := s.deleteByContentType i.contentType
      match s.registry.uninstall groupType plugin with
      | (.error f, registry) => (.error f, { s with registry })
      | (.ok (), registry) => (.ok n, { s with registry })

end Grouping.Store
