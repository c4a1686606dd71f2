import Grouping.EntityStore
import Grouping.Registry
import Grouping.Relation.CacheTag
import Grouping.Relation.Table

/-! # The store

The state that the operations on groups work on, the drafting of relations, and the lookups. Reading
the registry fills its cache, so operations that read it also answer a new store; they differ from
the old one in caches only.
-/

namespace Grouping

structure Store where
  types : TypeTable
  columns : ColumnMemo
  registry : Registry
  entities : EntityStore
  relations : RelationTable
  /-- The cache tags that were reported stale, the oldest first. -/
  staleTags : List String
  /-- The reading of the clock. -/
  now : Instant
  deriving DecidableEq

namespace Store

def create (types : TypeTable) (catalog : Catalog) (now : Instant) : Store :=
  { types, columns := .empty, registry := .ofCatalog catalog, entities := .empty,
    relations := .empty, staleTags := [], now }

/-- The store after the registry was read. -/
def warm (s : Store) : Store := { s with registry := s.registry.warm }

/-- The column for targets of a type. -/
def columnFor (s : Store) (type : String) : TargetColumn × Store :=
  let (column, memo) := s.columns.resolve s.types type
  (column, { s with columns := memo })

/-- The id of a saved group; `message` is for groups that are not saved. -/
def groupId (group : Entity) (message : String) : Except Failure Int64 :=
  if ¬ group.isGroup then .error (.notAGroup group.displayLabel)
  else
    match group.serial? with
    | some n => .ok n
    | none => .error (.unsavedGroup message)

def invalidPlugin : Failure :=
  .invalidPlugin "Invalid plugin provided for adding the entity to the group."

/-- The installation through which an entity may join: installed, for its type, for its bundle. -/
def serving (plugins : InstalledPlugins) (entity : Entity) (plugin : String) :
    Except Failure Installation :=
  match plugins.get? plugin with
  | none => .error invalidPlugin
  | some i =>
    if i.enabler.entityType ≠ entity.type then .error invalidPlugin
    else if i.enabler.bundle.any fun b => b ≠ entity.bundle then
      .error (.bundleMismatch plugin entity.bundle)
    else .ok i

/-- What a relation of the entity to a group of the given type would point at, and through which
installation. Nothing is asked of the group itself. -/
def resolveTarget (s : Store) (entity : Entity) (groupType plugin : String) :
    Outcome Store (EntityId × Installation) :=
  match entity.key? with
  | none => (.error (.unsavedEntity "Cannot add an unsaved entity to a group."), s)
  | some k =>
    let s := s.warm
    ((serving (s.registry.installedOn groupType) entity plugin).map (k.id, ·), s)

/-- A draft takes the number of the next row as its unique identifier. -/
def draftUuid (s : Store) : Uuid := .ofNat (s.relations.lastId + 1).toNat

/-- The draft of a relation that adds an entity to a group through a plugin. -/
def draft (s : Store) (entity group : Entity) (plugin : String) : Outcome Store Relation :=
  match groupId group "Cannot add an entity to an unsaved group." with
  | .error f => (.error f, s)
  | .ok g =>
    match s.resolveTarget entity group.bundle plugin with
    | (.error f, s) => (.error f, s)
    | (.ok (id, i), s) =>
      let (column, s) := s.columnFor entity.type
      (.ok (.draft s.draftUuid s.now g group.bundle i.contentType plugin
        ⟨column, ⟨entity.type, id⟩⟩), s)

def load (s : Store) (id : Int) : Option Relation := s.relations.get? id

def loadTarget (s : Store) (r : Relation) : Option Entity := s.entities.load r.key

def loadGroup (s : Store) (r : Relation) : Option Entity :=
  s.entities.load ⟨EntityTypeId.group, .int r.group⟩

def unsavedGroupMessage : String := "Cannot load GroupContent entities for an unsaved group."

/-- The relations of a group, through one plugin or through any. -/
def byGroup (s : Store) (group : Entity) (plugin : Option String) :
    Except Failure (List Relation) :=
  match groupId group unsavedGroupMessage with
  | .error f => .error f
  | .ok g => .ok (s.relations.select (.inGroup g plugin))

/-- The relations to an entity. -/
def byEntity (s : Store) (entity : Entity) : Except Failure (List Relation) :=
  match entity.key? with
  | none =>
    .error (.unsavedEntity "Cannot load GroupContent entities for an unsaved entity.")
  | some k => .ok (s.relations.select (.ofTarget k))

/-- The relations through a plugin, in groups of any type. -/
def byPlugin (s : Store) (plugin : String) : List Relation × Store :=
  let s := s.warm
  (s.relations.select { contentTypes := some (s.registry.contentTypesOf plugin) }, s)

/-- The relations in a group through a plugin to targets with the given id, of whatever type. -/
def byTargetId (s : Store) (group : Entity) (plugin : String) (id : EntityId) :
    Except Failure (List Relation) :=
  match groupId group unsavedGroupMessage with
  | .error f => .error f
  | .ok g =>
    .ok (s.relations.select { RelationQuery.inGroup g (some plugin) with targetIds := some [id] })

/-- The installation behind a relation. -/
def installationOf (s : Store) (r : Relation) : Outcome Store Installation :=
  let s := s.warm
  match s.registry.ofContentType? r.contentType with
  | some i => (.ok i, s)
  | none => (.error (.pluginNotFound r.plugin), s)

end Store

end Grouping
