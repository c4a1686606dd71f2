import Grouping.Json.Record

/-! # Violations of limits

A violation is a value, not a failure: it tells which limit a relation would break and at which
property.
-/

namespace Grouping

inductive Limit where
  /-- The number of groups that an entity is in. -/
  | group
  /-- The number of times that an entity is in one group. -/
  | entity
  deriving DecidableEq, Inhabited

namespace Limit

def name : Limit → String
  | group => "group_cardinality"
  | entity => "entity_cardinality"

def toJson (l : Limit) : Json := .str l.name

def ofJson? : Json.Decode Limit := fun j =>
  (Json.tag? j).bind fun tag => [group, entity].find? fun l => l.name = tag

end Limit

structure Violation where
  limit : Limit
  path : String
  message : String
  deriving DecidableEq, Inhabited

namespace Violation

def text (v : Violation) : String := v.path ++ ": " ++ v.message

def toJson (v : Violation) : Json :=
  .object [("code", v.limit.toJson), ("property_path", .str v.path), ("message", .str v.message)]

def ofJson? : Json.Decode Violation := fun j => do
  let [limit, path, message] ← Json.slots ["code", "property_path", "message"] j | none
  let limit ← limit.required Limit.ofJson?
  let path ← path.required Json.string?
  let message ← message.required Json.string?
  some ⟨limit, path, message⟩

def listToJson (l : List Violation) : Json := .object [("violations", .arr (l.map toJson))]

def listOfJson? : Json.Decode (List Violation) := fun j => do
  let [l] ← Json.slots ["violations"] j | none
  l.required (Json.list? ofJson?)

def mentions (l : List Violation) (limit : Limit) : Bool := l.any fun v => v.limit = limit

end Violation

end Grouping
