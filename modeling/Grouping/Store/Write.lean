import Grouping.Store

/-! # Writing relations

Saving stores a draft as a new row or replaces the row with the relation's id; its group and its time
of creation stay. Every change reports the cache tags it makes stale.
-/

namespace Grouping.Store

def report (s : Store) (r : Relation) : Store :=
  { s with staleTags := s.staleTags ++ CacheTag.stale r }

/-- The label of a relation: that of its target, or the key of a target that is gone. -/
def labelFor (s : Store) (i : Installation) (r : Relation) : String :=
  match s.loadTarget r with
  | some target => i.enabler.contentLabel target
  | none => r.key.text

/-- Replaces a stored row. -/
def rewrite (s : Store) (id : Int) (r : Relation) : Outcome Store Relation :=
  match s.relations.get? id with
  | none => (.error (.relationNotFound id), s)
  | some old =>
    if old.group ≠ r.group then (.error (.groupImmutable id old.group r.group), s)
    else
      match s.relations.update { r with created := old.created } with
      | .error f => (.error f, s)
      | .ok (r, t) => (.ok r, { s with relations := t }.report r)

/-- Stores a draft. -/
def add (s : Store) (r : Relation) : Relation × Store :=
  let (r, t) := s.relations.insert { r with created := s.now }
  (r, { s with relations := t }.report r)

/-- Saves a relation without looking at limits. -/
def save (s : Store) (r : Relation) : Outcome Store Relation :=
  match s.installationOf r with
  | (.error f, s) => (.error f, s)
  | (.ok i, s) =>
    let r := { r with label := s.labelFor i r, changed := s.now }
    match r.id with
    | some id => s.rewrite id r
    | none =>
      let (r, s) := s.add r
      (.ok r, s)

/-- Removes the row with an id, `r` being what the caller takes it to hold; answers whether there
was one. -/
def removeRow (s : Store) (id : Int) (r : Relation) : Bool × Store :=
  match s.relations.delete id with
  | (false, _) => (false, s)
  | (true, t) => (true, { s with relations := t }.report r)

def delete (s : Store) (r : Relation) : Bool × Store :=
  match r.id with
  | none => (false, s)
  | some id => s.removeRow id r

/-- Deletes relations one after the other; answers how many were there. -/
def deleteAll (s : Store) : List Relation → Nat × Store
  | [] => (0, s)
  | r :: rs =>
    let (found, s) := s.delete r
    let (n, s) := s.deleteAll rs
    ((if found then 1 else 0) + n, s)

def deleteByGroup (s : Store) (group : Entity) : Outcome Store Nat :=
  match s.byGroup group none with
  | .error f => (.error f, s)
  | .ok rs =>
    let (n, s) := s.deleteAll rs
    (.ok n, s)

def deleteByEntity (s : Store) (entity : Entity) : Outcome Store Nat :=
  match s.byEntity entity with
  | .error f => (.error f, s)
  | .ok rs =>
    let (n, s) := s.deleteAll rs
    (.ok n, s)

def deleteByContentType (s : Store) (contentType : String) : Nat × Store :=
  s.deleteAll (s.relations.select { contentTypes := some [contentType] })

end Grouping.Store
