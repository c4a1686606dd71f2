import Grouping.Distinct
import Grouping.Site

/-! # Attaching media to groups

The media that a piece of content refers to is added to the groups that the content is in. A media item
that may not be added to a group is passed over: because its bundle is excluded or not installed, a
hook forbids it, the plugin does not track, or a limit is reached.
-/

namespace Grouping

/-- What decides about an assignment besides the limits. -/
structure AssignPolicy where
  askHooks : Bool
  /-- Excluded bundles and the tracking of plugins count. -/
  automatic : Bool
  deriving DecidableEq, Inhabited

namespace AssignPolicy

def tracked : AssignPolicy := ⟨true, true⟩

def manual : AssignPolicy := ⟨true, false⟩

end AssignPolicy

namespace Installation

/-- Among the known relations of an item, enough other groups have it through this installation. -/
def isGroupLimitReached (i : Installation) (known : List Relation) (group : Int64) : Bool :=
  0 < i.groupLimit &&
    i.groupLimit ≤
      (distinct (((known.filter fun r => r.contentType = i.contentType).map Relation.group).filter
        (· ≠ group))).length

/-- Among the known relations of an item, enough are in the group through the plugin. -/
def isEntityLimitReached (i : Installation) (plugin : String) (known : List Relation)
    (group : Int64) : Bool :=
  0 < i.entityLimit &&
    i.entityLimit ≤ (known.filter fun r => r.group = group && r.plugin = plugin).length

end Installation

namespace Site

/-! ## Assignment -/

/-- The installation through which the item may be added to a group, as far as the known relations of
the item tell. -/
def opening? (s : Site) (policy : AssignPolicy) (plugin : String) (known : List Relation)
    (group : Entity) : Option Installation := do
  let i ← (s.store.registry.installedOn group.bundle).get? plugin
  if policy.automatic ∧ ¬ i.tracking then none
  else
    let id ← group.serial?
    if i.isGroupLimitReached known id ∨ i.isEntityLimitReached plugin known id then none else some i

/-- Adds the item to a group that is open for it; a relation that cannot be drafted is passed over. -/
def attachItem (s : Site) (item : Entity) (plugin : String) (group : Entity) :
    Outcome Site (Option Relation) :=
  match s.onStore fun t => t.draft item group plugin with
  | (.error _, s) => (.ok none, s)
  | (.ok r, s) =>
    match s.onStore fun t => t.saveValidated { r with owner := item.owner } with
    | (.error f, s) => (.error f, s)
    | (.ok (.saved r), s) => (.ok (some r), s)
    | (.ok (.refused _), s) => (.ok none, s)

/-- Adds the item to one group where this is allowed. -/
def assignToGroup (s : Site) (policy : AssignPolicy) (item : Entity) (plugin : String)
    (known : List Relation) (group : Entity) : Outcome Site (Option Relation) :=
  let (allowed, s) := if policy.askHooks then s.shouldAttach item group else (true, s)
  if ¬ allowed then (.ok none, s)
  else
    match s.opening? policy plugin known group with
    | none => (.ok none, s)
    | some _ => s.attachItem item plugin group

/-- Adds the item to the groups one after the other; the relations made become known. -/
def assignToGroups (s : Site) (policy : AssignPolicy) (item : Entity) (plugin : String)
    (known : List Relation) : List Entity → Outcome Site (List Relation)
  | [] => (.ok [], s)
  | group :: groups =>
    match s.assignToGroup policy item plugin known group with
    | (.error f, s) => (.error f, s)
    | (.ok none, s) => assignToGroups s policy item plugin known groups
    | (.ok (some r), s) =>
      match assignToGroups s policy item plugin (known ++ [r]) groups with
      | (.error f, s) => (.error f, s)
      | (.ok rs, s) => (.ok (r :: rs), s)

/-- May the item be attached at all? -/
def isEligible (s : Site) (policy : AssignPolicy) (item : Entity) : Bool :=
  s.store.registry.installed.pluginIds.contains (PluginId.media item.bundle) &&
    ! (policy.automatic && s.settings.isExcluded item.bundle) && item.key?.isSome

def assignItem (s : Site) (policy : AssignPolicy) (item : Entity) (groups : List Entity) :
    Outcome Site (List Relation) :=
  if ¬ s.isEligible policy item then (.ok [], s)
  else
    match s.store.byEntity item with
    | .error f => (.error f, s)
    | .ok known => s.assignToGroups policy item (PluginId.media item.bundle) known groups

def assignItems (s : Site) (policy : AssignPolicy) (groups : List Entity) :
    List Entity → Outcome Site (List Relation)
  | [] => (.ok [], s)
  | item :: items =>
    match s.assignItem policy item groups with
    | (.error f, s) => (.error f, s)
    | (.ok rs, s) =>
      match assignItems s policy groups items with
      | (.error f, s) => (.error f, s)
      | (.ok more, s) => (.ok (rs ++ more), s)

/-- Adds every item to every group where this is allowed; answers the relations made. -/
def assign (s : Site) (policy : AssignPolicy) (items groups : List Entity) :
    Outcome Site (List Relation) :=
  assignItems { s with store := s.store.warm } policy groups items

/-! ## Content and its groups -/

/-- The stored groups that an entity is in; a group is in itself only. -/
def groupsOf (s : Site) (e : Entity) : Except Failure (List Entity) :=
  if e.isGroup then .ok [e]
  else if e.fieldable ∧ e.saved then
    (s.store.byEntity e).map fun rs =>
      (distinct (rs.map Relation.group)).filterMap fun g =>
        s.store.entities.load ⟨EntityTypeId.group, .int g⟩
  else .ok []

/-- The groups that media of an entity is added to. -/
def contentGroups (s : Site) (e : Entity) : Outcome Site (List Entity) :=
  match s.groupsOf e with
  | .error f => (.error f, s)
  | .ok groups =>
    let (groups, s) := s.alterGroups groups e
    (.ok groups, s)

/-- The groups that media of the relation's target is added to. -/
def relationGroups (s : Site) (r : Relation) (target : Entity) : List Entity × Site :=
  s.alterGroups (s.store.loadGroup r).toList target

/-- The media of the relation's target. -/
def relationMedia (s : Site) (r : Relation) : List Entity × Site :=
  match s.store.loadTarget r with
  | none => ([], s)
  | some target => s.media target

/-- Adds the media that an entity refers to to the entity's groups. -/
def attach (s : Site) (e : Entity) : Outcome Site (List Relation) :=
  if ¬ s.settings.tracking then (.ok [], s)
  else
    match s.contentGroups e with
    | (.error f, s) => (.error f, s)
    | (.ok [], s) => (.ok [], s)
    | (.ok groups, s) =>
      match s.media e with
      | ([], s) => (.ok [], s)
      | (items, s) => s.assign .tracked items groups

/-- Adds the media that the relation's target refers to to the relation's group. -/
def attachRelation (s : Site) (r : Relation) : Outcome Site (List Relation) :=
  if ¬ s.settings.tracking then (.ok [], s)
  else
    match s.store.loadTarget r with
    | none => (.ok [], s)
    | some target =>
      match s.relationGroups r target with
      | ([], s) => (.ok [], s)
      | (groups, s) =>
        match s.relationMedia r with
        | ([], s) => (.ok [], s)
        | (items, s) => s.assign .tracked items groups

/-! ## Actions of editors -/

/-- Adds a media item to a group; answers the relation if one was made. -/
def addMedia (s : Site) (item group : Entity) : Outcome Site (Option Relation) :=
  match s.assign .manual [item] [group] with
  | (.error f, s) => (.error f, s)
  | (.ok rs, s) => (.ok rs.head?, s)

/-- Removes the relations of a media item in a group; answers how many there were. -/
def removeMedia (s : Site) (item group : Entity) : Outcome Site Nat :=
  let s := { s with store := s.store.warm }
  match s.store.registry.contentTypesOf (PluginId.media item.bundle) with
  | [] => (.ok 0, s)
  | contentTypes =>
    match group.serial? with
    | none => (.error (.unsavedGroup "Cannot remove media from an unsaved group."), s)
    | some id =>
      match item.key? with
      | none => (.ok 0, s)
      | some k =>
        let (n, store) := s.store.deleteAll (s.store.relations.select
          { RelationQuery.ofTarget k with groups := some [id], contentTypes := some contentTypes })
        (.ok n, { s with store })

end Site

end Grouping
