/-! # The shortest decimal that reads back as a given binary64 number

A positive finite number is `m · 2 ^ q`. The reals that round to it form an interval around it, with
its ends exactly when `m` is even. For one digit, two digits, and so on, the two neighbours of the
number on the grid of decimals with that many digits are tried; the first grid with a neighbour in
the interval wins, the nearer of two such neighbours is taken.
-/

namespace Grouping.Decimal

/-- A positive finite binary64 number: the significand, the power of two, and whether the gap below
the number is half the gap above it. -/
structure Dyadic where
  significand : Nat
  power : Int
  narrowBelow : Bool

/-- The dyadic form of a bit pattern without sign; `none` for zero, infinities and NaN. -/
def Dyadic.ofBits? (bits : Nat) : Option Dyadic :=
  let fraction : Nat := bits % Nat.pow 2 52
  let exponent : Nat := bits / Nat.pow 2 52 % Nat.pow 2 11
  if exponent = 2047 then none
  else if exponent = 0 then
    if fraction = 0 then none else some ⟨fraction, -1074, false⟩
  else
    some ⟨Nat.pow 2 52 + fraction, (exponent : Int) - 1075, decide (fraction = 0 ∧ 1 < exponent)⟩

/-- Decimal digits and the power of ten of the last one. -/
structure Digits where
  value : Nat
  exponent : Int
  deriving Repr, DecidableEq

/-- `a * 2 ^ p < b * 10 ^ e`, or `≤` when `orEqual`, in exact arithmetic. -/
def below (orEqual : Bool) (a : Nat) (p : Int) (b : Nat) (e : Int) : Bool :=
  let left := a * Nat.pow 2 p.toNat * Nat.pow 10 (-e).toNat
  let right := b * Nat.pow 10 e.toNat * Nat.pow 2 (-p).toNat
  if orEqual then left ≤ right else left < right

def above (orEqual : Bool) (a : Nat) (p : Int) (b : Nat) (e : Int) : Bool :=
  let left := a * Nat.pow 2 p.toNat * Nat.pow 10 (-e).toNat
  let right := b * Nat.pow 10 e.toNat * Nat.pow 2 (-p).toNat
  if orEqual then right ≤ left else right < left

/-- The decimal `d · 10 ^ e` rounds to the number. -/
def Dyadic.rounds (x : Dyadic) (d : Nat) (e : Int) : Bool :=
  let closed : Bool := x.significand % 2 = 0
  let lower := if x.narrowBelow then 4 * x.significand - 1 else 4 * x.significand - 2
  below closed lower (x.power - 2) d e && above closed (4 * x.significand + 2) (x.power - 2) d e

/-- The largest multiple of `10 ^ e` that is not above the number, divided by `10 ^ e`. -/
def Dyadic.floorAt (x : Dyadic) (e : Int) : Nat :=
  (x.significand * Nat.pow 2 x.power.toNat * Nat.pow 10 (-e).toNat) /
    (Nat.pow 10 e.toNat * Nat.pow 2 (-x.power).toNat)

/-- Twice the number is below `(2 d + 1) · 10 ^ e`: `d` is nearer than its successor. -/
def Dyadic.nearerFloor (x : Dyadic) (d : Nat) (e : Int) : Bool :=
  below (d % 2 = 0) x.significand (x.power + 1) (2 * d + 1) e

/-- The grid of exponent `e` has a neighbour of the number that rounds to it. -/
def Dyadic.onGrid (x : Dyadic) (e : Int) : Option Digits :=
  let d := x.floorAt e
  match x.rounds d e, x.rounds (d + 1) e with
  | true, true => some ⟨if x.nearerFloor d e then d else d + 1, e⟩
  | true, false => some ⟨d, e⟩
  | false, true => some ⟨d + 1, e⟩
  | false, false => none

/-- Tries the grids of exponents `e`, `e - 1`, … -/
def Dyadic.search (x : Dyadic) : Nat → Int → Digits
  | 0, e => ⟨x.floorAt e, e⟩
  | n + 1, e =>
    match x.onGrid e with
    | some d => d
    | none => x.search n (e - 1)

/-- Drops zeros at the end. -/
def Digits.trim : Nat → Digits → Digits
  | 0, d => d
  | n + 1, d => if d.value ≠ 0 ∧ d.value % 10 = 0 then trim n ⟨d.value / 10, d.exponent + 1⟩ else d

/-- The power of ten of the first digit of the number. -/
def Dyadic.magnitude (x : Dyadic) : Int :=
  let whole := x.floorAt 0
  if whole ≠ 0 then (Nat.toDigits 10 whole).length - 1
  else ((Nat.toDigits 10 (x.floorAt (-1100))).length : Int) - 1 - 1100

def Dyadic.shortest (x : Dyadic) : Digits := (x.search 17 x.magnitude).trim 400

/-- How a decimal is laid out: positional from `10 ^ -5` up to sixteen digits before the point, else
with an exponent; a whole number keeps `.0`. -/
def Digits.layout (d : Digits) : String :=
  let ds := toString d.value
  let n : Int := ds.length
  let point := n + d.exponent
  if 0 ≤ d.exponent ∧ point ≤ 16 then
    ds ++ String.ofList (List.replicate d.exponent.toNat '0') ++ ".0"
  else if 0 < point ∧ point ≤ 16 then
    String.ofList (ds.toList.take point.toNat) ++ "." ++ String.ofList (ds.toList.drop point.toNat)
  else if -5 < point ∧ point ≤ 0 then
    "0." ++ String.ofList (List.replicate (-point).toNat '0') ++ ds
  else
    let lead := String.ofList (ds.toList.take 1)
    let rest := String.ofList (ds.toList.drop 1)
    let mantissa := if rest = "" then lead else lead ++ "." ++ rest
    mantissa ++ "e" ++ toString (point - 1)

/-- The text of a finite binary64 number. -/
def floatText (f : Float) : String :=
  let bits := f.toBits.toNat
  let sign := if bits / Nat.pow 2 63 = 1 then "-" else ""
  match Dyadic.ofBits? (bits % Nat.pow 2 63) with
  | some x => sign ++ x.shortest.layout
  | none => sign ++ "0.0"

end Grouping.Decimal
