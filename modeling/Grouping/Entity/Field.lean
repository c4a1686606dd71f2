import Grouping.Entity.Key

/-! # Fields of entities

A field has a definition and a list of items. The kind of a field tells how its items are meant;
kinds that the library does not know are kept by name, and a foreign kind named `text` is not the
text kind.
-/

namespace Grouping

inductive FieldKind where
  | reference
  | compositeReference
  | text
  | longText
  | summaryText
  | string
  | integer
  | boolean
  | other (name : String)
  deriving DecidableEq, Inhabited

namespace FieldKind

def name : FieldKind → String
  | reference => "entity_reference"
  | compositeReference => "entity_reference_revisions"
  | text => "text"
  | longText => "text_long"
  | summaryText => "text_with_summary"
  | string => "string"
  | integer => "integer"
  | boolean => "boolean"
  | other n => n

/-- The kinds with a name of their own. -/
def named : List FieldKind :=
  [reference, compositeReference, text, longText, summaryText, string, integer, boolean]

def isFormattedText (k : FieldKind) : Bool := k = text || k = longText || k = summaryText

def toJson : FieldKind → Json
  | other n => .object [("other", .str n)]
  | k => .str k.name

def ofJson? : Json.Decode FieldKind := fun j =>
  match Json.choice? j with
  | some ("other", some v) => (Json.string? v).map other
  | _ => do
    let tag ← Json.tag? j
    named.find? fun k => k.name = tag

end FieldKind

structure FieldDefinition where
  name : String
  kind : FieldKind
  targetType : Option String := none
  label : Option String := none
  deriving DecidableEq, Inhabited

namespace FieldDefinition

/-- A field referring to entities of one type. -/
def referenceTo (name target : String) : FieldDefinition :=
  { name, kind := .reference, targetType := some target }

/-- A field referring to parts, entities that belong to their host. -/
def compositeReferenceTo (name target : String) : FieldDefinition :=
  { name, kind := .compositeReference, targetType := some target }

def targets (d : FieldDefinition) (type : String) : Bool := d.targetType = some type

def toJson (d : FieldDefinition) : Json :=
  .object [("name", .str d.name), ("field_type", d.kind.toJson),
    ("target_type", .ofOption .str d.targetType), ("label", .ofOption .str d.label)]

def ofJson? : Json.Decode FieldDefinition := fun j => do
  let [name, kind, targetType, label] ←
    Json.slots ["name", "field_type", "target_type", "label"] j | none
  let name ← name.required Json.string?
  let kind ← kind.required FieldKind.ofJson?
  let targetType ← targetType.optional Json.string?
  let label ← label.optional Json.string?
  some { name, kind, targetType, label }

end FieldDefinition

inductive FieldItem where
  | reference (target : EntityKey) (revision : Option Int64)
  | text (body : String) (summary format : Option String)
  | plain (value : Json)
  deriving DecidableEq, Inhabited

namespace FieldItem

def target? : FieldItem → Option EntityKey
  | reference k _ => some k
  | _ => none

def toJson : FieldItem → Json
  | reference k revision =>
    .object [("kind", .str "reference"), ("target_type", .str k.type),
      ("target_id", k.id.toJson),
      ("target_revision_id", .ofOption (fun (n : Int64) => .int n.toInt) revision)]
  | text body summary format =>
    .object [("kind", .str "text"), ("value", .str body), ("summary", .ofOption .str summary),
      ("format", .ofOption .str format)]
  | plain v => .object [("kind", .str "value"), ("value", v)]

def int64? : Json.Decode Int64 := fun j => (Json.int64? j).map Int64.ofInt

/-- An item of the named kind from its fields. -/
def ofContent? (kind : String) (content : Json) : Option FieldItem :=
  match kind with
  | "reference" => do
    let [type, id, revision] ←
      Json.slots ["target_type", "target_id", "target_revision_id"] content | none
    let type ← type.required Json.string?
    let id ← id.required EntityId.ofJson?
    let revision ← revision.optional int64?
    some (reference ⟨type, id⟩ revision)
  | "text" => do
    let [body, summary, format] ← Json.slots ["value", "summary", "format"] content | none
    let body ← body.required Json.string?
    let summary ← summary.optional Json.string?
    let format ← format.optional Json.string?
    some (text body summary format)
  | "value" => do
    let [v] ← Json.slots ["value"] content | none
    let v ← v.required some
    some (plain v)
  | _ => none

/-- The kind is the member `kind` of an object, or the first item of a list. -/
def ofJson? : Json.Decode FieldItem
  | .obj members => do
    let kind ← (Json.lookup "kind" members).bind Json.string?
    ofContent? kind (.obj members)
  | .arr (.str kind :: rest) => ofContent? kind (.arr rest)
  | _ => none

end FieldItem

structure Field where
  definition : FieldDefinition
  items : List FieldItem
  deriving DecidableEq, Inhabited

namespace Field

def targetKeys (f : Field) : List EntityKey := f.items.filterMap FieldItem.target?

def toJson (f : Field) : Json :=
  .object [("definition", f.definition.toJson), ("items", .arr (f.items.map FieldItem.toJson))]

def ofJson? : Json.Decode Field := fun j => do
  let [definition, items] ← Json.slots ["definition", "items"] j | none
  let definition ← definition.required FieldDefinition.ofJson?
  let items ← items.required (Json.list? FieldItem.ofJson?)
  some ⟨definition, items⟩

end Field

end Grouping
