import Grouping.EntityType

/-! # Stored entities

Entities are stored under their key, in the order in which keys were first stored. Entities with
serial ids get the next free id of their type when they are saved without one; named entities must
bring their name.
-/

namespace Grouping

structure EntityStore where
  rows : OrderedMap EntityKey Entity
  /-- The next serial id of each type that had one. -/
  nextIds : OrderedMap String Int64
  deriving DecidableEq

namespace EntityStore

def empty : EntityStore := ⟨∅, ∅⟩

instance : Inhabited EntityStore := ⟨empty⟩

def load (s : EntityStore) (k : EntityKey) : Option Entity := s.rows.get? k

/-- The stored entities of a type. -/
def ofType (s : EntityStore) (type : String) : List Entity :=
  (s.rows.entries.filter fun e => e.1.type = type).map Prod.snd

def count (s : EntityStore) (type : String) : Nat := (s.ofType type).length

def loadMany (s : EntityStore) (type : String) (ids : List EntityId) : List Entity :=
  ids.filterMap fun id => s.load ⟨type, id⟩

def loadByUuid (s : EntityStore) (type : String) (uuid : Uuid) : Option Entity :=
  (s.ofType type).find? fun e => e.uuid = uuid

/-- The written form of the entity has these members. -/
def hasProperties (properties : List (String × Json)) (e : Entity) : Bool :=
  properties.all fun p => (e.toJson.member? p.1).any fun v => v.same p.2

def loadByProperties (s : EntityStore) (type : String) (properties : List (String × Json)) :
    List Entity :=
  (s.ofType type).filter (hasProperties properties)

def nextId (s : EntityStore) (type : String) : Int64 := s.nextIds.getD type 1

def setNextId (s : EntityStore) (type : String) (n : Int64) : EntityStore :=
  { s with nextIds := s.nextIds.insert type n }

/-- Serial ids of the type start at `n` at least from now on. -/
def raiseNextId (s : EntityStore) (type : String) (n : Int64) : EntityStore :=
  s.setNextId type (if s.nextId type < n then n else s.nextId type)

/-- Stores an entity under the given id. -/
def put (s : EntityStore) (e : Entity) (id : EntityId) : Entity × EntityStore :=
  let e := { e with id := some id, saved := true }
  (e, { s with rows := s.rows.insert ⟨e.type, id⟩ e })

/-- Stores an entity under the id that it brings, or else under the next id of its type. The count of
ids wraps around, the lowest one comes after the highest one; if it is built to check arithmetic, the
program stops there instead. -/
def save (s : EntityStore) (types : TypeTable) (e : Entity) :
    Except Failure (Entity × EntityStore) :=
  match types.require e.type with
  | .error f => .error f
  | .ok type =>
    match e.id, type.idKind with
    | some (.int n), _ => .ok ((s.raiseNextId e.type (n + 1)).put e (.int n))
    | some (.name n), _ => .ok (s.put e (.name n))
    | none, .serial =>
      let n := s.nextId e.type
      .ok ((s.setNextId e.type (n + 1)).put e (.int n))
    | none, .name => .error (.missingName e.type)

def delete (s : EntityStore) (k : EntityKey) : EntityStore := { s with rows := s.rows.erase k }

end EntityStore

end Grouping
