import Grouping.Json

/-! # Reading typed records

A record is written as an object of named fields and may also be read from a list of its fields in
order. A required field must be there; an optional one may be missing from an object, or null; a
field with a fallback may be missing. Unknown members of an object are ignored, surplus items of a
list are refused.
-/

namespace Grouping.Json

/-- A decoder of one type of value. -/
abbrev Decode (α : Type) := Json → Option α

/-- What is known about one field of a record. -/
inductive Slot where
  /-- The field has this value. -/
  | given (value : Json)
  /-- The object has no such member. -/
  | missing
  /-- The list ended before this field. -/
  | cutOff

namespace Slot

def required {α : Type} (f : Decode α) : Slot → Option α
  | given v => f v
  | missing | cutOff => none

def optional {α : Type} (f : Decode α) : Slot → Option (Option α)
  | given null => some none
  | given v => (f v).map some
  | missing => some none
  | cutOff => none

def withDefault {α : Type} (fallback : α) (f : Decode α) : Slot → Option α
  | given v => f v
  | missing | cutOff => some fallback

@[simp]
theorem required_given {α : Type} (f : Decode α) (v : Json) : (given v).required f = f v := rfl

@[simp]
theorem withDefault_given {α : Type} (fallback : α) (f : Decode α) (v : Json) :
    (given v).withDefault fallback f = f v := rfl

end Slot

def slotOf (o : Option Json) : Slot :=
  match o with
  | some v => .given v
  | none => .missing

@[simp]
theorem slotOf_some (v : Json) : slotOf (some v) = .given v := rfl

/-- The slots of the named fields in a list of values; `none` when values are left over. -/
def slotsOfList : List String → List Json → Option (List Slot)
  | [], [] => some []
  | [], _ :: _ => none
  | _ :: names, [] => (slotsOfList names []).map (.cutOff :: ·)
  | _ :: names, v :: vs => (slotsOfList names vs).map (.given v :: ·)

/-- The slots of the named fields, in the order of the names. -/
def slots (names : List String) : Json → Option (List Slot)
  | obj members => some (names.map fun n => slotOf (lookup n members))
  | arr items => slotsOfList names items
  | _ => none

def string? : Decode String
  | str s => some s
  | _ => none

@[simp]
theorem string?_str (s : String) : string? (str s) = some s := rfl

def bool? : Decode Bool
  | bool b => some b
  | _ => none

@[simp]
theorem bool?_bool (b : Bool) : bool? (bool b) = some b := rfl

/-- Any integer; a float such as `1.0` is not one. -/
def int? : Decode Int
  | int n => some n
  | _ => none

def intBetween? (lo hi : Int) : Decode Int
  | int n => if lo ≤ n ∧ n ≤ hi then some n else none
  | _ => none

/-- A signed 64-bit integer. -/
def int64? : Decode Int := intBetween? (-9223372036854775808) 9223372036854775807

/-- An unsigned 32-bit integer. -/
def nat32? : Decode Nat := fun j => (intBetween? 0 4294967295 j).map Int.toNat

def list? {α : Type} (f : Decode α) : Decode (List α)
  | arr items => items.mapM f
  | _ => none

def strings? : Decode (List String) := list? string?

/-- The members of an object, each value decoded. -/
def members? {α : Type} (f : Decode α) : Decode (List (String × α))
  | obj members => members.mapM fun e => (f e.2).map (e.1, ·)
  | _ => none

/-- The tag and the content of a choice: a bare tag, or an object with the tag as its only key. -/
def choice? : Json → Option (String × Option Json)
  | str tag => some (tag, none)
  | obj [(tag, v)] => some (tag, some v)
  | _ => none

/-- A choice without content: the bare tag, or the tag with null. -/
def tag? (j : Json) : Option String :=
  match choice? j with
  | some (tag, none) => some tag
  | some (tag, some null) => some tag
  | _ => none

end Grouping.Json
