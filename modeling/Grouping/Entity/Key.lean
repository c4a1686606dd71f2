import Grouping.Json.Record

/-! # Entity ids and keys

Content entities mostly have serial integers as ids, configuration entities have names. The integer
`7` and the name `"7"` are different ids. A key is an id together with the entity type it belongs to.
-/

namespace Grouping

inductive EntityId where
  | int (n : Int64)
  | name (s : String)
  deriving DecidableEq, Inhabited

namespace EntityId

def int? : EntityId → Option Int64
  | int n => some n
  | name _ => none

def name? : EntityId → Option String
  | int _ => none
  | name s => some s

def text : EntityId → String
  | int n => toString n.toInt
  | name s => s

def toJson : EntityId → Json
  | int n => .int n.toInt
  | name s => .str s

def ofJson? : Json.Decode EntityId
  | .str s => some (name s)
  | j => (Json.int64? j).map fun n => int (Int64.ofInt n)

end EntityId

@[ext]
structure EntityKey where
  type : String
  id : EntityId
  deriving DecidableEq, Inhabited

namespace EntityKey

def text (k : EntityKey) : String := k.type ++ ":" ++ k.id.text

def toJson (k : EntityKey) : Json :=
  .object [("entity_type", .str k.type), ("id", k.id.toJson)]

def ofJson? : Json.Decode EntityKey := fun j => do
  let [type, id] ← Json.slots ["entity_type", "id"] j | none
  let type ← type.required Json.string?
  let id ← id.required EntityId.ofJson?
  some ⟨type, id⟩

end EntityKey

end Grouping
