import Grouping.EntityType

/-! # Where a relation keeps its target

The target of a relation is kept in an integer column when the ids of its entity type are an integer
field, and in an ASCII column for names otherwise. `TypeTable.columnFor` is the rule;
`ColumnMemo.resolve` remembers its answers until a type is registered.
-/

namespace Grouping

inductive TargetColumn where
  | numeric
  | name
  deriving DecidableEq, Inhabited

namespace TargetColumn

def tag : TargetColumn → String
  | numeric => "numeric"
  | name => "string"

def fieldName : TargetColumn → String
  | numeric => "entity_id"
  | name => "entity_id_str"

/-- The property that a violation is reported at. -/
def path (c : TargetColumn) : String := c.fieldName ++ ".0"

def toJson (c : TargetColumn) : Json := .str c.tag

def ofJson? : Json.Decode TargetColumn := fun j =>
  (Json.tag? j).bind fun t => [numeric, name].find? fun c => c.tag = t

end TargetColumn

inductive ColumnType where
  | integer (unsigned : Bool)
  | asciiText (length : Nat)
  deriving DecidableEq, Inhabited

namespace ColumnType

def toJson : ColumnType → Json
  | integer unsigned => .object [("integer", .object [("unsigned", .bool unsigned)])]
  | asciiText length => .object [("varchar_ascii", .object [("length", .int length)])]

def ofJson? : Json.Decode ColumnType := fun j =>
  match Json.choice? j with
  | some ("integer", some (.obj members)) => do
    let v ← Json.lookup "unsigned" members
    let b ← Json.bool? v
    some (integer b)
  | some ("varchar_ascii", some (.obj members)) => do
    let v ← Json.lookup "length" members
    let n ← Json.nat32? v
    some (asciiText n)
  | _ => none

/-- The id can be stored in a column of this type. -/
def fits : ColumnType → EntityId → Bool
  | integer unsigned, .int n => ! unsigned || 0 ≤ n.toInt
  | asciiText length, .name s => s.toList.all (fun c => c.toNat < 128) && s.length ≤ length
  | _, _ => false

end ColumnType

structure ColumnSchema where
  name : String
  type : ColumnType
  notNull : Bool
  deriving DecidableEq, Inhabited

namespace ColumnSchema

def toJson (c : ColumnSchema) : Json :=
  .object [("name", .str c.name), ("column_type", c.type.toJson), ("not_null", .bool c.notNull)]

def ofJson? : Json.Decode ColumnSchema := fun j => do
  let [name, type, notNull] ← Json.slots ["name", "column_type", "not_null"] j | none
  let name ← name.required Json.string?
  let type ← type.required ColumnType.ofJson?
  let notNull ← notNull.required Json.bool?
  some ⟨name, type, notNull⟩

end ColumnSchema

/-- The definition of the field that refers to the target. -/
structure ReferenceField where
  column : TargetColumn
  label : String
  description : String
  targetType : Option String
  required : Bool
  settings : OrderedMap String Json
  schema : ColumnSchema
  deriving DecidableEq

namespace ReferenceField

/-- Names of targets may have this many characters. -/
def nameLength : Nat := 255

def columnType : TargetColumn → ColumnType
  | .numeric => .integer true
  | .name => .asciiText nameLength

def base (column : TargetColumn) : ReferenceField :=
  { column
    label := "Content"
    description := "The entity to add to the group."
    targetType := none
    required := true
    settings := ∅
    schema := ⟨"target_id", columnType column, true⟩ }

/-- The field for targets of one type. -/
def forType (column : TargetColumn) (type : String) : ReferenceField :=
  { base column with targetType := some type }

def withSetting (f : ReferenceField) (name : String) (value : Json) : ReferenceField :=
  { f with settings := f.settings.insert name value }

def toJson (f : ReferenceField) : Json :=
  .object [("kind", f.column.toJson), ("label", .str f.label),
    ("description", .str f.description), ("target_type", .ofOption .str f.targetType),
    ("required", .bool f.required), ("settings", .object f.settings.entries),
    ("column", f.schema.toJson)]

def ofJson? : Json.Decode ReferenceField := fun j => do
  let [column, label, description, targetType, required, settings, schema] ←
    Json.slots ["kind", "label", "description", "target_type", "required", "settings", "column"] j
    | none
  let column ← column.required TargetColumn.ofJson?
  let label ← label.required Json.string?
  let description ← description.required Json.string?
  let targetType ← targetType.optional Json.string?
  let required ← required.required Json.bool?
  let settings ← settings.required (Json.members? some)
  let schema ← schema.required ColumnSchema.ofJson?
  some { column, label, description, targetType, required, settings := .ofList settings, schema }

end ReferenceField

namespace EntityType

def column (t : EntityType) : TargetColumn := if t.hasSerialField then .numeric else .name

end EntityType

namespace TypeTable

/-- The column for targets of a type; an unknown type is taken to have names. -/
def columnFor (t : TypeTable) (type : String) : TargetColumn :=
  match t.get? type with
  | some d => d.column
  | none => .name

theorem columnFor_eq_numeric_iff {t : TypeTable} {type : String} :
    t.columnFor type = .numeric ↔ ∃ d, t.get? type = some d ∧ d.hasSerialField = true := by
  unfold columnFor
  split
  · next d hd =>
    unfold EntityType.column
    constructor
    · intro h
      refine ⟨d, hd, ?_⟩
      split at h
      · assumption
      · exact absurd h nofun
    · rintro ⟨d', hd', h⟩
      cases hd.symm.trans hd'
      rw [if_pos h]
  · next hd => exact ⟨nofun, fun ⟨d, hd', _⟩ => absurd (hd.symm.trans hd') nofun⟩

end TypeTable

/-- Columns resolved so far, and the generation of the type table they were resolved from. -/
structure ColumnMemo where
  generation : Nat
  columns : OrderedMap String TargetColumn
  deriving DecidableEq

namespace ColumnMemo

def empty : ColumnMemo := ⟨0, ∅⟩

instance : Inhabited ColumnMemo := ⟨empty⟩

/-- The columns that are still good for the table. -/
def current (m : ColumnMemo) (types : TypeTable) : OrderedMap String TargetColumn :=
  if m.generation = types.generation then m.columns else ∅

/-- The column for a type and the memo afterwards; unknown types are not remembered. -/
def resolve (m : ColumnMemo) (types : TypeTable) (type : String) : TargetColumn × ColumnMemo :=
  match (m.current types).get? type with
  | some c => (c, m)
  | none =>
    match types.get? type with
    | none => (.name, m)
    | some d => (d.column, ⟨types.generation, (m.current types).insert type d.column⟩)

def clear (m : ColumnMemo) : ColumnMemo := ⟨m.generation, ∅⟩

end ColumnMemo

end Grouping
