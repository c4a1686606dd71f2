import Grouping.Json.Record
import Grouping.OrderedMap

/-! # Bundles and group types

The bundles of an entity type are its sub-types, each with a label, in the order in which they were
added. The bundles of groups are the group types.
-/

namespace Grouping

structure Bundles where
  labels : OrderedMap String (OrderedMap String String)
  deriving DecidableEq, Inhabited

namespace Bundles

def empty : Bundles := ⟨∅⟩

/-- The bundles of a type with their labels. -/
def of (b : Bundles) (type : String) : OrderedMap String String := b.labels.getD type ∅

/-- Adds a bundle; a known bundle gets the new label and keeps its place. -/
def add (b : Bundles) (type bundle label : String) : Bundles :=
  ⟨b.labels.insert type ((b.of type).insert bundle label)⟩

theorem of_add (b : Bundles) (type bundle label type' : String) :
    (b.add type bundle label).of type' =
      if type = type' then (b.of type').insert bundle label else b.of type' := by
  simp only [add, of, OrderedMap.getD, OrderedMap.get?_insert]
  split
  · next h => rw [h, Option.getD_some]
  · rfl

def has (b : Bundles) (type bundle : String) : Bool := (b.of type).contains bundle

def remove (b : Bundles) (type bundle : String) : Bundles :=
  if b.has type bundle then ⟨b.labels.insert type ((b.of type).erase bundle)⟩ else b

def toJson (b : Bundles) : Json :=
  .object [("bundles", .object (b.labels.entries.map fun e =>
    (e.1, .object (e.2.entries.map fun l => (l.1, .str l.2)))))]

def ofJson? : Json.Decode Bundles := fun j => do
  let [bundles] ← Json.slots ["bundles"] j | none
  let l ← bundles.required (Json.members? (Json.members? Json.string?))
  some ⟨.ofList (l.map fun e => (e.1, .ofList e.2))⟩

end Bundles

structure GroupType where
  id : String
  label : String
  /-- Whoever creates a group of this type becomes a member. -/
  creatorJoins : Bool := true
  creatorRoles : List String := []
  deriving DecidableEq, Inhabited

namespace GroupType

def toJson (g : GroupType) : Json :=
  .object [("id", .str g.id), ("label", .str g.label), ("creator_membership", .bool g.creatorJoins),
    ("creator_roles", .ofStrings g.creatorRoles)]

def ofJson? : Json.Decode GroupType := fun j => do
  let [id, label, creatorJoins, creatorRoles] ←
    Json.slots ["id", "label", "creator_membership", "creator_roles"] j | none
  let id ← id.required Json.string?
  let label ← label.required Json.string?
  let creatorJoins ← creatorJoins.required Json.bool?
  let creatorRoles ← creatorRoles.required Json.strings?
  some { id, label, creatorJoins, creatorRoles }

end GroupType

end Grouping
