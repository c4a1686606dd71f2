import Grouping.EntityStore
import Grouping.Hook

/-! # Finders of media

A finder tells which media an entity refers to. Finders are kept in a list under unique ids and are run
one after the other; what several of them find is listed several times.
-/

namespace Grouping

/-- Finds media in an entity. Asking the hooks may change them. -/
abbrev Search := EntityStore → Hooks → Entity → List Entity × Hooks

structure Finder where
  id : String
  label : String
  /-- The kinds of fields that are searched. -/
  kinds : List FieldKind
  search : Search
  applies : Entity → Bool := Entity.fieldable

namespace Finder

/-- A search that asks no hooks. -/
def quiet (f : EntityStore → Entity → List Entity) : Search := fun s h e => (f s e, h)

end Finder

abbrev FinderList := List Finder

namespace FinderList

def ids (l : FinderList) : List String := l.map Finder.id

def get? (l : FinderList) (id : String) : Option Finder := l.find? fun f => f.id = id

/-- Adds a finder; one with the same id is replaced in its place. -/
def register (l : FinderList) (f : Finder) : FinderList :=
  match l with
  | [] => [f]
  | g :: r => if g.id = f.id then f :: r else g :: register r f

def unregister (l : FinderList) (id : String) : FinderList := l.filter fun f => f.id ≠ id

/-- Runs the finders that apply to the entity. -/
def process : FinderList → Search
  | [], _, h, _ => ([], h)
  | f :: r, s, h, e =>
    if f.applies e then
      let (found, h) := f.search s h e
      let (more, h) := process r s h e
      (found ++ more, h)
    else process r s h e

end FinderList

end Grouping
