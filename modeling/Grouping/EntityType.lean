import Grouping.Entity
import Grouping.Failure

/-! # Entity types

An entity type says whether its entities have fields and whether their ids are serial integers or
names. A table of types counts its registrations, so that whatever was derived from it can tell when
it went out of date.
-/

namespace Grouping

inductive IdKind where
  | serial
  | name
  deriving DecidableEq, Inhabited

namespace IdKind

def tag : IdKind → String
  | serial => "integer"
  | name => "string"

def toJson (k : IdKind) : Json := .str k.tag

def ofJson? : Json.Decode IdKind := fun j =>
  (Json.tag? j).bind fun t => [serial, name].find? fun k => k.tag = t

end IdKind

structure EntityType where
  id : String
  label : String
  idKind : IdKind
  fieldable : Bool
  bundleOf : Option String := none
  deriving DecidableEq, Inhabited

namespace EntityType

/-- A type with fields and serial ids. -/
def content (id label : String) : EntityType := { id, label, idKind := .serial, fieldable := true }

/-- A type with fields whose entities are named. -/
def namedContent (id label : String) : EntityType :=
  { id, label, idKind := .name, fieldable := true }

/-- A type of named configuration entities without fields. -/
def config (id label : String) : EntityType := { id, label, idKind := .name, fieldable := false }

/-- The ids of the type are kept in an integer field. -/
def hasSerialField (t : EntityType) : Bool := t.fieldable && t.idKind = .serial

def toJson (t : EntityType) : Json :=
  .object [("id", .str t.id), ("label", .str t.label), ("id_key_type", t.idKind.toJson),
    ("fieldable", .bool t.fieldable), ("bundle_of", .ofOption .str t.bundleOf)]

def ofJson? : Json.Decode EntityType := fun j => do
  let [id, label, idKind, fieldable, bundleOf] ←
    Json.slots ["id", "label", "id_key_type", "fieldable", "bundle_of"] j | none
  let id ← id.required Json.string?
  let label ← label.required Json.string?
  let idKind ← idKind.required IdKind.ofJson?
  let fieldable ← fieldable.required Json.bool?
  let bundleOf ← bundleOf.optional Json.string?
  some { id, label, idKind, fieldable, bundleOf }

end EntityType

structure TypeTable where
  types : OrderedMap String EntityType
  generation : Nat
  deriving DecidableEq

namespace TypeTable

def empty : TypeTable := ⟨∅, 0⟩

instance : Inhabited TypeTable := ⟨empty⟩

def register (t : TypeTable) (type : EntityType) : TypeTable :=
  ⟨t.types.insert type.id type, t.generation + 1⟩

def get? (t : TypeTable) (id : String) : Option EntityType := t.types.get? id

def require (t : TypeTable) (id : String) : Except Failure EntityType :=
  match t.get? id with
  | some type => .ok type
  | none => .error (.unknownEntityType id)

/-- The types that come with the library. -/
def standardTypes : List EntityType :=
  [.content EntityTypeId.group "Group", .content EntityTypeId.user "User",
    .content EntityTypeId.media "Media", .content EntityTypeId.node "Content",
    .content EntityTypeId.paragraph "Paragraph",
    { EntityType.config "group_type" "Group type" with bundleOf := some EntityTypeId.group },
    { EntityType.config "media_type" "Media type" with bundleOf := some EntityTypeId.media },
    { EntityType.config "node_type" "Content type" with bundleOf := some EntityTypeId.node }]

def standard : TypeTable := standardTypes.foldl register empty

end TypeTable

end Grouping
