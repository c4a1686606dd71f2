import Grouping.Entity.Field
import Grouping.OrderedMap
import Grouping.Uuid

/-! # Entities

Groups, users, media, nodes and paragraphs are all entities; the entity type tells them apart. Only
a saved entity has a key. The fields are listed in the order in which they were first set; a field is
found under the name it was stored with.
-/

namespace Grouping

namespace EntityTypeId

def group : String := "group"
def user : String := "user"
def media : String := "media"
def node : String := "node"
def paragraph : String := "paragraph"

end EntityTypeId

structure Entity where
  type : String
  bundle : String
  id : Option EntityId
  uuid : Uuid
  label : String
  owner : Option Int64
  fieldable : Bool
  saved : Bool
  fields : OrderedMap String Field
  deriving DecidableEq, Inhabited

namespace Entity

/-- An unsaved entity whose fields can be inspected. -/
def create (uuid : Uuid) (type bundle : String) : Entity :=
  { type, bundle, id := none, uuid, label := "", owner := none, fieldable := true, saved := false,
    fields := ∅ }

/-- An unsaved configuration entity: a name as id, no fields, the type as bundle. -/
def config (uuid : Uuid) (type name : String) : Entity :=
  { create uuid type type with id := some (.name name), fieldable := false }

def group (uuid : Uuid) (groupType label : String) : Entity :=
  { create uuid EntityTypeId.group groupType with label }

def setField (e : Entity) (definition : FieldDefinition) (items : List FieldItem) : Entity :=
  { e with fields := e.fields.insert definition.name ⟨definition, items⟩ }

def field? (e : Entity) (name : String) : Option Field := e.fields.get? name

def fieldList (e : Entity) : List Field := e.fields.values

def hasFieldOfKind (e : Entity) (kind : FieldKind) : Bool :=
  e.fieldList.any fun f => f.definition.kind = kind

def key? (e : Entity) : Option EntityKey := if e.saved then e.id.map (⟨e.type, ·⟩) else none

def isGroup (e : Entity) : Bool := e.type = EntityTypeId.group

/-- The integer id of a saved entity. -/
def serial? (e : Entity) : Option Int64 := if e.saved then e.id.bind EntityId.int? else none

/-- The label, or the type and id of an entity without one. -/
def displayLabel (e : Entity) : String :=
  if e.label ≠ "" then e.label
  else
    match e.id with
    | some id => (EntityKey.mk e.type id).text
    | none => e.type

def toJson (e : Entity) : Json :=
  .object [("entity_type", .str e.type), ("bundle", .str e.bundle),
    ("id", .ofOption EntityId.toJson e.id), ("uuid", .str e.uuid.text), ("label", .str e.label),
    ("owner_id", .ofOption (fun (n : Int64) => .int n.toInt) e.owner),
    ("fieldable", .bool e.fieldable), ("persisted", .bool e.saved),
    ("fields", .object (e.fields.entries.map fun f => (f.1, f.2.toJson)))]

def uuid? : Json.Decode Uuid := fun j => (Json.string? j).bind Uuid.parse?

def ofJson? : Json.Decode Entity := fun j => do
  let [type, bundle, id, uuid, label, owner, fieldable, saved, fields] ←
    Json.slots ["entity_type", "bundle", "id", "uuid", "label", "owner_id", "fieldable",
      "persisted", "fields"] j | none
  let type ← type.required Json.string?
  let bundle ← bundle.required Json.string?
  let id ← id.optional EntityId.ofJson?
  let uuid ← uuid.required uuid?
  let label ← label.required Json.string?
  let owner ← owner.optional FieldItem.int64?
  let fieldable ← fieldable.required Json.bool?
  let saved ← saved.withDefault false Json.bool?
  let fields ← fields.required (Json.members? Field.ofJson?)
  some { type, bundle, id, uuid, label, owner, fieldable, saved, fields := .ofList fields }

theorem key?_eq_some_iff {e : Entity} {k : EntityKey} :
    e.key? = some k ↔ e.saved = true ∧ e.id = some k.id ∧ k.type = e.type := by
  unfold key?
  constructor
  · intro h
    split at h
    · next hs =>
      obtain ⟨id, hid, rfl⟩ := Option.map_eq_some_iff.mp h
      exact ⟨hs, hid, rfl⟩
    · exact absurd h nofun
  · rintro ⟨hs, hid, ht⟩
    rw [if_pos hs, hid, Option.map_some, ← ht]

theorem serial?_eq_some_iff {e : Entity} {n : Int64} :
    e.serial? = some n ↔ e.saved = true ∧ e.id = some (.int n) := by
  unfold serial?
  constructor
  · intro h
    split at h
    · next hs =>
      obtain ⟨id, hid, hn⟩ := Option.bind_eq_some_iff.mp h
      cases id with
      | int m => exact ⟨hs, by rw [hid]; exact congrArg (some ∘ EntityId.int) (Option.some.inj hn)⟩
      | name s => exact absurd hn nofun
    · exact absurd h nofun
  · rintro ⟨hs, hid⟩
    rw [if_pos hs, hid]
    rfl

theorem isGroup_iff {e : Entity} : e.isGroup = true ↔ e.type = EntityTypeId.group :=
  decide_eq_true_iff

theorem key?_eq_group_iff {e : Entity} {n : Int64} :
    e.key? = some ⟨EntityTypeId.group, .int n⟩ ↔ e.isGroup = true ∧ e.serial? = some n := by
  rw [key?_eq_some_iff, serial?_eq_some_iff, isGroup_iff]
  constructor
  · rintro ⟨hs, hid, ht⟩
    exact ⟨ht.symm, hs, hid⟩
  · rintro ⟨ht, hs, hid⟩
    exact ⟨hs, hid, ht.symm⟩

end Entity

end Grouping
