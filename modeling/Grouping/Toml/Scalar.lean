import Grouping.Toml
import Grouping.Text.Blank
import Grouping.Text.Digit

/-! # Unquoted values

Truth values, numbers, dates and times. Underscores may stand between digits.
-/

namespace Grouping.Toml.Scalar

/-- The digits of a run in which single underscores may stand between digits. -/
def run? (base : Nat) (cs : List Char) : Option (List Char) :=
  let groups := Text.pieces '_' cs
  if groups.all fun g => g ≠ [] && g.all (Text.isDigitOf base) then some groups.flatten else none

/-- Takes the sign of a number off. -/
def unsigned : List Char → Bool × List Char
  | '-' :: r => (true, r)
  | '+' :: r => (false, r)
  | r => (false, r)

def decimal? (cs : List Char) : Option (List Char) :=
  (run? 10 cs).filter fun ds => ds.length = 1 || ds.head? ≠ some '0'

/-- Whole numbers have at most 128 bits, signed or unsigned. -/
def inRange (n : Int) : Bool := -(Int.pow 2 127) ≤ n && n < Int.pow 2 128

def whole? (base : Nat) (negative : Bool) (digits : List Char) : Option Value :=
  let n : Int := Text.ofDigits base digits
  let n := if negative then -n else n
  if inRange n then some (.int n) else none

def int? (cs : List Char) : Option Value :=
  match cs with
  | '0' :: 'x' :: r => run? 16 r >>= whole? 16 false
  | '0' :: 'o' :: r => run? 8 r >>= whole? 8 false
  | '0' :: 'b' :: r => run? 2 r >>= whole? 2 false
  | cs =>
    let (negative, r) := unsigned cs
    decimal? r >>= whole? 10 negative

/-- Does `digits * 10 ^ exponent` exceed what a float of 64 bits holds? -/
def overflows (digits : List Char) (exponent : Int) : Bool :=
  let m := Text.ofDigits 10 digits
  if m = 0 then false
  else if 400 < exponent + digits.length then true
  else if exponent < 0 then false
  else (Float.ofScientific m false exponent.toNat).isInf

/-- A number with a fraction, an exponent, or both. -/
def float? (cs : List Char) : Option Value := do
  let (_, r) := unsigned cs
  if r = "inf".toList ∨ r = "nan".toList then some (.float (String.ofList cs))
  else
    let mantissa := r.takeWhile fun c => c ≠ 'e' && c ≠ 'E'
    let exponent := r.dropWhile fun c => c ≠ 'e' && c ≠ 'E'
    let wholePart ← decimal? (mantissa.takeWhile (· ≠ '.'))
    let fraction ←
      match mantissa.dropWhile (· ≠ '.') with
      | [] => some []
      | _ :: f => run? 10 f
    let power ←
      match exponent with
      | [] => some 0
      | _ :: e =>
        let (negative, e) := unsigned e
        (run? 10 e).map fun ds => (if negative then -1 else 1) * (Text.ofDigits 10 ds : Int)
    if mantissa.all (· ≠ '.') ∧ exponent = [] then none
    else if overflows (wholePart ++ fraction) (power - fraction.length) then none
    else some (.float (String.ofList cs))

/-! ## Dates and times -/

/-- A number of exactly `n` digits at the start of a text. -/
def fixed? (n : Nat) (cs : List Char) : Option (Nat × List Char) :=
  let ds := cs.take n
  if ds.length = n ∧ ds.all Char.isDigit then some (Text.ofDigits 10 ds, cs.drop n) else none

def expect? (c : Char) : List Char → Option (List Char)
  | d :: r => if d = c then some r else none
  | [] => none

def daysIn (year month : Nat) : Nat :=
  if month = 2 then
    if year % 4 = 0 ∧ (year % 100 ≠ 0 ∨ year % 400 = 0) then 29 else 28
  else if [4, 6, 9, 11].contains month then 30
  else 31

/-- Reads a date and returns what follows it. -/
def date? (cs : List Char) : Option (List Char) := do
  let (year, r) ← fixed? 4 cs
  let (month, r) ← expect? '-' r >>= fixed? 2
  let (day, r) ← expect? '-' r >>= fixed? 2
  if 1 ≤ month ∧ month ≤ 12 ∧ 1 ≤ day ∧ day ≤ daysIn year month then some r else none

/-- Seconds may be left out; a fraction of them may not be empty. -/
def time? (cs : List Char) : Option (List Char) := do
  let (hour, r) ← fixed? 2 cs
  let (minute, r) ← expect? ':' r >>= fixed? 2
  if 23 < hour ∨ 59 < minute then none
  else
    match r with
    | ':' :: r =>
      let (second, r) ← fixed? 2 r
      if 60 < second then none
      else
        match r with
        | '.' :: r =>
          if r.head?.any Char.isDigit then some (r.dropWhile Char.isDigit) else none
        | r => some r
    | r => some r

/-- The distance to universal time at the end of a text. -/
def isOffset : List Char → Bool
  | ['Z'] | ['z'] => true
  | '+' :: r | '-' :: r =>
    match fixed? 2 r with
    | some (hours, ':' :: r) =>
      match fixed? 2 r with
      | some (minutes, []) => hours * 60 + minutes ≤ 24 * 60
      | _ => false
    | _ => false
  | _ => false

def isTime (cs : List Char) : Bool := time? cs = some []

def isMoment (cs : List Char) : Bool :=
  isTime cs ||
    (match date? cs with
    | some [] => true
    | some (c :: r) =>
      (c = 'T' || c = 't' || c = ' ') && (time? r).any fun r => r = [] || isOffset r
    | none => false)

/-- The value that an unquoted text denotes. -/
def parse? (cs : List Char) : Option Value :=
  if cs = "true".toList then some (.bool true)
  else if cs = "false".toList then some (.bool false)
  else if isMoment cs then some (.moment (String.ofList cs))
  else (int? cs) <|> (float? cs)

end Grouping.Toml.Scalar
