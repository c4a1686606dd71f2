import Grouping.Instant
import Grouping.Text.Blank

/-! # Instants in RFC 3339 text

Written in Universal Time with a final `Z`, and with three, six or nine decimals if the second has a
fraction. Reading is lenient: blanks may stand before a number and between the parts, `T`, `t` or a
blank separates date and time, the zone is `Z`, `UTC` in any case or an offset in hours and minutes.
Second 60 is a leap second.
-/

namespace Grouping.Instant

def pad (width n : Nat) : String :=
  let ds := toString n
  String.ofList (List.replicate (width - ds.length) '0') ++ ds

def yearText (y : Int) : String :=
  if 0 ≤ y ∧ y ≤ 9999 then pad 4 y.toNat
  else (if y < 0 then "-" else "+") ++ pad 4 y.natAbs

def fractionText (nanos : Nat) : String :=
  if nanos = 0 then ""
  else if nanos % 1000000 = 0 then "." ++ pad 3 (nanos / 1000000)
  else if nanos % 1000 = 0 then "." ++ pad 6 (nanos / 1000)
  else "." ++ pad 9 nanos

def text (t : Instant) : String :=
  let d := t.date
  let s := t.secondOfDay
  let leap := if 1000000000 ≤ t.nanoseconds then 1 else 0
  yearText d.year ++ "-" ++ pad 2 d.month ++ "-" ++ pad 2 d.day ++ "T" ++ pad 2 (s / 3600) ++ ":" ++
    pad 2 (s / 60 % 60) ++ ":" ++ pad 2 (s % 60 + leap) ++
    fractionText (t.nanoseconds % 1000000000) ++ "Z"

def natOfDigits (ds : List Char) : Nat := ds.foldl (fun n c => n * 10 + (c.toNat - 48)) 0

/-- At least one and at most `width` digits. -/
def number? (width : Nat) (cs : List Char) : Option (Nat × List Char) :=
  let ds := (cs.take width).takeWhile Char.isDigit
  if ds = [] then none else some (natOfDigits ds, cs.drop ds.length)

/-- A number after optional blanks. -/
def field? (width : Nat) (cs : List Char) : Option (Nat × List Char) :=
  number? width (Text.trimStart cs)

/-- Four digits at most, or any number after a sign. -/
def year? (cs : List Char) : Option (Int × List Char) :=
  match Text.trimStart cs with
  | '-' :: r => (number? r.length r).map fun (n, r) => (-(n : Int), r)
  | '+' :: r => (number? r.length r).map fun (n, r) => ((n : Int), r)
  | r => (number? 4 r).map fun (n, r) => ((n : Int), r)

/-- A separator after optional blanks. -/
def mark? (c : Char) (cs : List Char) : Option (List Char) :=
  match Text.trimStart cs with
  | d :: r => if d = c then some r else none
  | [] => none

/-- The fraction of a second in nanoseconds; digits after the ninth are dropped. -/
def fraction? (cs : List Char) : Option (Nat × List Char) :=
  match cs with
  | '.' :: r => do
    let (_, rest) ← number? 9 r
    let ds := (r.take 9).takeWhile Char.isDigit
    some (natOfDigits ds * Nat.pow 10 (9 - ds.length), rest.dropWhile Char.isDigit)
  | r => some (0, r)

def digit? (c : Char) : Option Nat := if c.isDigit then some (c.toNat - 48) else none

/-- The hours and minutes after the sign of an offset, in seconds. -/
def offsetTail? (cs : List Char) : Option (Nat × List Char) :=
  match cs with
  | h :: k :: r => do
    let h ← digit? h
    let k ← digit? k
    match r.dropWhile fun c => c = ':' || Text.isBlank c with
    | m :: n :: r =>
      let m ← digit? m
      let n ← digit? n
      if 6 ≤ m then none else some ((h * 10 + k) * 3600 + (m * 10 + n) * 60, r)
    | _ => none
  | _ => none

/-- The zone, as seconds east of Universal Time. -/
def zone? (cs : List Char) : Option (Int × List Char) :=
  match cs with
  | 'Z' :: r | 'z' :: r => some (0, r)
  | '+' :: r => (offsetTail? r).map fun (n, r) => ((n : Int), r)
  | '-' :: r | '\u2212' :: r => (offsetTail? r).map fun (n, r) => (-(n : Int), r)
  | u :: t :: c :: r =>
    if u.toLower = 'u' ∧ t.toLower = 't' ∧ c.toLower = 'c' then some (0, r) else none
  | _ => none

def separator? (cs : List Char) : Option (List Char) :=
  match cs with
  | 'T' :: r | 't' :: r | ' ' :: r => some r
  | _ => none

def parse? (s : String) : Option Instant := do
  let (year, r) ← year? s.toList
  let r ← mark? '-' r
  let (month, r) ← field? 2 r
  let r ← mark? '-' r
  let (day, r) ← field? 2 r
  let r ← separator? r
  let (hour, r) ← field? 2 r
  let r ← mark? ':' r
  let (minute, r) ← field? 2 r
  let r ← mark? ':' r
  let (second, r) ← field? 2 r
  let (nanos, r) ← fraction? r
  let (offset, r) ← zone? (Text.trimStart r)
  let date : Date := ⟨year, month, day⟩
  if Text.trimStart r ≠ [] ∨ ¬ date.isValid ∨ 23 < hour ∨ 59 < minute ∨ 60 < second ∨
      86400 ≤ offset.natAbs then none
  else
    let leap := if second = 60 then 1 else 0
    let time : Int := (hour * 3600 + minute * 60 + (second - leap) : Nat)
    let t : Instant := ⟨date.dayNumber * 86400 + time - offset, nanos + leap * 1000000000⟩
    if Date.yearInRange t.date.year then some t else none

end Grouping.Instant
