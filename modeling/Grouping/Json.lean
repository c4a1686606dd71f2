/-! # JSON values

Integers are exact and distinct from floats: `1` and `1.0` are different values. An object lists its
members in the byte-wise order of their keys; `object` builds one from any list of members, a later
member replacing an earlier one of the same key.
-/

namespace Grouping

inductive Json where
  | null
  | bool (b : Bool)
  | int (n : Int)
  | float (value : Float)
  | str (s : String)
  | arr (items : List Json)
  | obj (members : List (String × Json))
  deriving Inhabited

namespace Json

mutual

/-- Structural equality is decidable; floats are compared as bit patterns. -/
def decEq : (a b : Json) → Decidable (a = b)
  | null, null => isTrue rfl
  | bool a, bool b => decidable_of_iff (a = b) (by simp)
  | int a, int b => decidable_of_iff (a = b) (by simp)
  | float a, float b => decidable_of_iff (a = b) (by simp)
  | str a, str b => decidable_of_iff (a = b) (by simp)
  | arr a, arr b =>
    have := decEqItems a b
    decidable_of_iff (a = b) (by simp)
  | obj a, obj b =>
    have := decEqMembers a b
    decidable_of_iff (a = b) (by simp)
  | null, bool _ | null, int _ | null, float _ | null, str _ | null, arr _ | null, obj _
  | bool _, null | bool _, int _ | bool _, float _ | bool _, str _ | bool _, arr _ | bool _, obj _
  | int _, null | int _, bool _ | int _, float _ | int _, str _ | int _, arr _ | int _, obj _
  | float _, null | float _, bool _ | float _, int _ | float _, str _ | float _, arr _
  | float _, obj _
  | str _, null | str _, bool _ | str _, int _ | str _, float _ | str _, arr _ | str _, obj _
  | arr _, null | arr _, bool _ | arr _, int _ | arr _, float _ | arr _, str _ | arr _, obj _
  | obj _, null | obj _, bool _ | obj _, int _ | obj _, float _ | obj _, str _ | obj _, arr _ =>
    isFalse nofun

def decEqItems : (a b : List Json) → Decidable (a = b)
  | [], [] => isTrue rfl
  | [], _ :: _ | _ :: _, [] => isFalse nofun
  | a :: as, b :: bs =>
    have := decEq a b
    have := decEqItems as bs
    decidable_of_iff (a = b ∧ as = bs) (by simp)

def decEqMembers : (a b : List (String × Json)) → Decidable (a = b)
  | [], [] => isTrue rfl
  | [], _ :: _ | _ :: _, [] => isFalse nofun
  | (k, a) :: as, (l, b) :: bs =>
    have := decEq a b
    have := decEqMembers as bs
    decidable_of_iff ((k = l ∧ a = b) ∧ as = bs) (by simp)

end

instance : DecidableEq Json := decEq

mutual

/-- Equality as values: floats by their number, so that `0.0` and `-0.0` agree. An integer never
equals a float. -/
def same : Json → Json → Bool
  | null, null => true
  | bool a, bool b => a == b
  | int a, int b => a == b
  | float a, float b => a == b
  | str a, str b => a == b
  | arr a, arr b => sameItems a b
  | obj a, obj b => sameMembers a b
  | _, _ => false

def sameItems : List Json → List Json → Bool
  | [], [] => true
  | a :: as, b :: bs => same a b && sameItems as bs
  | _, _ => false

def sameMembers : List (String × Json) → List (String × Json) → Bool
  | [], [] => true
  | (k, a) :: as, (l, b) :: bs => k == l && same a b && sameMembers as bs
  | _, _ => false

end

/-- Puts a member into a list ordered by key, replacing one of the same key. -/
def insertMember (k : String) (v : Json) : List (String × Json) → List (String × Json)
  | [] => [(k, v)]
  | e :: r =>
    if e.1 = k then (k, v) :: r
    else if k < e.1 then (k, v) :: e :: r
    else e :: insertMember k v r

def sortMembers (members : List (String × Json)) : List (String × Json) :=
  members.foldl (fun l e => insertMember e.1 e.2 l) []

/-- The object with the given members, a later one of the same key winning. -/
def object (members : List (String × Json)) : Json := obj (sortMembers members)

def lookup (k : String) : List (String × Json) → Option Json
  | [] => none
  | e :: r => if e.1 = k then some e.2 else lookup k r

/-- The member `k` of an object; `none` for other values. -/
def member? (k : String) : Json → Option Json
  | obj members => lookup k members
  | _ => none

def ofStrings (l : List String) : Json := arr (l.map str)

/-- An absent value is written `null`. -/
def ofOption {α : Type} (f : α → Json) : Option α → Json
  | none => null
  | some a => f a

@[simp]
theorem lookup_cons_self (k : String) (v : Json) (l : List (String × Json)) :
    lookup k ((k, v) :: l) = some v := if_pos rfl

@[simp]
theorem lookup_cons_of_ne {j k : String} (h : j ≠ k) (v : Json) (l : List (String × Json)) :
    lookup k ((j, v) :: l) = lookup k l := if_neg h

end Json

end Grouping
