import Grouping.Ascending
import Grouping.Failure
import Grouping.Relation.Query

/-! # Tables of stored relations

A table hands out increasing ids and indexes its rows by group and by target. `select` looks up the
candidates of a query in an index where it can; `scan` filters all rows.
-/

namespace Grouping

/-- Row ids under the value of an indexed property; values without rows are left out. -/
abbrev RowIndex (κ : Type) := OrderedMap κ (List Int)

namespace RowIndex

variable {κ : Type} [DecidableEq κ]

def rowsOf (x : RowIndex κ) (k : κ) : List Int := (x.get? k).getD []

def add (x : RowIndex κ) (k : κ) (id : Int) : RowIndex κ :=
  x.insert k (Ascending.insert id (x.rowsOf k))

def remove (x : RowIndex κ) (k : κ) (id : Int) : RowIndex κ :=
  match (x.rowsOf k).filter fun i => i ≠ id with
  | [] => x.erase k
  | ids => x.insert k ids

end RowIndex

structure RelationTable where
  rows : OrderedMap Int Relation
  byGroup : RowIndex Int64
  byTarget : RowIndex EntityKey
  /-- The id that was handed out last. An insertion moves it on by one and nothing else moves it, so that
  the 64 bits of an id do not run out; here it is not bounded. -/
  lastId : Int
  deriving DecidableEq

namespace RelationTable

def empty : RelationTable := ⟨∅, ∅, ∅, 0⟩

instance : Inhabited RelationTable := ⟨empty⟩

def get? (t : RelationTable) (id : Int) : Option Relation := t.rows.get? id

def relations (t : RelationTable) : List Relation := t.rows.values

def size (t : RelationTable) : Nat := t.rows.size

/-- Stores a row under an id and enters it into the indexes. -/
def put (t : RelationTable) (id : Int) (r : Relation) : RelationTable :=
  { t with
    rows := t.rows.insert id r
    byGroup := RowIndex.add t.byGroup r.group id
    byTarget := RowIndex.add t.byTarget r.key id }

/-- Takes a row out of the indexes. -/
def unindex (t : RelationTable) (id : Int) (r : Relation) : RelationTable :=
  { t with
    byGroup := RowIndex.remove t.byGroup r.group id
    byTarget := RowIndex.remove t.byTarget r.key id }

def insert (t : RelationTable) (r : Relation) : Relation × RelationTable :=
  let id := t.lastId + 1
  let r := { r with id := some id }
  (r, { t.put id r with lastId := id })

def update (t : RelationTable) (r : Relation) : Except Failure (Relation × RelationTable) :=
  match r.id with
  | none => .error (.storage "Cannot update an unsaved relation")
  | some id =>
    match t.get? id with
    | none => .error (.relationNotFound id)
    | some old => .ok (r, (t.unindex id old).put id r)

def delete (t : RelationTable) (id : Int) : Bool × RelationTable :=
  match t.get? id with
  | none => (false, t)
  | some old =>
    let t := t.unindex id old
    (true, { t with rows := t.rows.erase id })

/-- Ids of the rows that an index offers for a query; `none` when no index serves it. -/
def candidates? (t : RelationTable) (q : RelationQuery) : Option (List Int) :=
  match q.targetType, q.targetIds with
  | some type, some ids =>
    some (Ascending.ofList (ids.flatMap fun id => RowIndex.rowsOf t.byTarget ⟨type, id⟩))
  | _, _ => q.groups.map fun gs => Ascending.ofList (gs.flatMap (RowIndex.rowsOf t.byGroup))

/-- The rows that satisfy a query, by increasing id. -/
def select (t : RelationTable) (q : RelationQuery) : List Relation :=
  match t.candidates? q with
  | some ids => (ids.filterMap t.get?).filter q.holds
  | none => t.relations.filter q.holds

def scan (t : RelationTable) (q : RelationQuery) : List Relation := t.relations.filter q.holds

end RelationTable

end Grouping
