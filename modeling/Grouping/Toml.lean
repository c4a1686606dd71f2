/-! # TOML documents

A document is a table whose values may be tables again. A table remembers how it came to be, because
that decides how it may be extended: `define` and `assign` refuse what would define a key twice. Floats
and moments keep their written form.
-/

namespace Grouping

namespace Toml

inductive Origin where
  /-- Named by a header, or the document itself. -/
  | header
  /-- Named on the way to another header. -/
  | implied
  /-- Named on the way by a dotted key. -/
  | dotted
  /-- Written as a value, which is complete. -/
  | inline
  deriving DecidableEq, Inhabited

mutual

inductive Value where
  | bool (b : Bool)
  | str (s : String)
  | int (n : Int)
  | float (written : String)
  | moment (written : String)
  | arr (items : List Value)
  | table (t : Table)
  /-- The tables of repeated headers; the last one is open for more keys. -/
  | rows (l : List Table)
  deriving Inhabited

inductive Table where
  | mk (origin : Origin) (entries : List (String × Value))
  deriving Inhabited

end

namespace Table

def origin : Table → Origin
  | mk o _ => o

def entries : Table → List (String × Value)
  | mk _ l => l

def withOrigin (t : Table) (o : Origin) : Table := mk o t.entries

def get? (t : Table) (key : String) : Option Value :=
  (t.entries.find? fun e => e.1 = key).map Prod.snd

/-- Replaces the value of a key in place, or adds it at the end. -/
def set (t : Table) (key : String) (v : Value) : Table :=
  mk t.origin
    (if t.entries.any fun e => e.1 = key then
      t.entries.map fun e => if e.1 = key then (key, v) else e
    else t.entries ++ [(key, v)])

/-- Changes the table at the end of a path, making the tables on the way that are missing. A dotted
path does not enter tables that have a header. -/
def change (dotted : Bool) (f : Table → Option Table) : List String → Table → Option Table
  | [], t => f t
  | key :: path, t =>
    match t.get? key with
    | none =>
      (change dotted f path (mk (if dotted then .dotted else .implied) [])).map fun s =>
        t.set key (.table s)
    | some (.table s) =>
      if s.origin = .inline ∨ (dotted ∧ s.origin = .header) then none
      else (change dotted f path s).map fun s => t.set key (.table s)
    | some (.rows l) =>
      match l.getLast? with
      | none => none
      | some s =>
        if dotted then none
        else (change dotted f path s).map fun s => t.set key (.rows (l.dropLast ++ [s]))
    | some _ => none

/-- Adds a key that is not there. -/
def add (key : String) (v : Value) (t : Table) : Option Table :=
  if (t.get? key).isSome then none else some (t.set key v)

/-- Gives a value to a key. Keys of one table are all dotted or all plain. -/
def assign (path : List String) (v : Value) (t : Table) : Option Table :=
  match path.getLast? with
  | none => none
  | some key =>
    let way := path.dropLast
    t.change (way ≠ [])
      (fun s => if (s.origin = .dotted) = (way = []) then none else s.add key v) way

/-- Opens the table of a header. -/
def define (path : List String) (t : Table) : Option Table :=
  match path.getLast? with
  | none => none
  | some key =>
    t.change false
      (fun s =>
        match s.get? key with
        | none => some (s.set key (.table (mk .header [])))
        | some (.table r) =>
          if r.origin = .implied then some (s.set key (.table (r.withOrigin .header))) else none
        | some _ => none)
      path.dropLast

/-- Opens the next table of a repeated header. -/
def defineRow (path : List String) (t : Table) : Option Table :=
  match path.getLast? with
  | none => none
  | some key =>
    t.change false
      (fun s =>
        match s.get? key with
        | none => some (s.set key (.rows [mk .header []]))
        | some (.rows l) => some (s.set key (.rows (l ++ [mk .header []])))
        | some _ => none)
      path.dropLast

end Table

end Toml

end Grouping
