import Grouping.Json
import Grouping.Text.Digit

/-! # Reading JSON text

An integer without fraction and exponent is exact as long as it fits 64 bits (signed when negative);
every other number is a float, and so is `-0`. A float is its decimal significand, cut to 64 bits,
multiplied or divided by a power of ten.
-/

namespace Grouping.Json.Reader

open Text (hexValue?)

def isBlank (c : Char) : Bool := c = ' ' || c = '\n' || c = '\t' || c = '\r'

def skipBlanks (cs : List Char) : List Char := cs.dropWhile isBlank

def hex4? (a b c d : Char) : Option Nat := do
  let a ← hexValue? a
  let b ← hexValue? b
  let c ← hexValue? c
  let d ← hexValue? d
  some (a * 4096 + b * 256 + c * 16 + d)

def simpleEscape? (c : Char) : Option Char :=
  match c with
  | '"' => some '"'
  | '\\' => some '\\'
  | '/' => some '/'
  | 'b' => some '\x08'
  | 'f' => some '\x0c'
  | 'n' => some '\n'
  | 'r' => some '\r'
  | 't' => some '\t'
  | _ => none

/-- The rest of a string after its opening quote; `acc` holds the characters read, last first. -/
def stringTail (acc : List Char) : List Char → Option (String × List Char)
  | [] => none
  | '"' :: r => some (String.ofList acc.reverse, r)
  | '\\' :: 'u' :: a :: b :: c :: d :: '\\' :: 'u' :: e :: f :: g :: h :: r =>
    match hex4? a b c d, hex4? e f g h with
    | some hi, some lo =>
      if 0xD800 ≤ hi ∧ hi < 0xDC00 then
        if 0xDC00 ≤ lo ∧ lo < 0xE000 then
          stringTail (Char.ofNat (0x10000 + (hi - 0xD800) * 1024 + (lo - 0xDC00)) :: acc) r
        else none
      else if 0xDC00 ≤ hi ∧ hi < 0xE000 then none
      else stringTail (Char.ofNat hi :: acc) ('\\' :: 'u' :: e :: f :: g :: h :: r)
    | some hi, none =>
      if 0xD800 ≤ hi ∧ hi < 0xE000 then none
      else stringTail (Char.ofNat hi :: acc) ('\\' :: 'u' :: e :: f :: g :: h :: r)
    | none, _ => none
  | '\\' :: 'u' :: a :: b :: c :: d :: r =>
    match hex4? a b c d with
    | some n => if 0xD800 ≤ n ∧ n < 0xE000 then none else stringTail (Char.ofNat n :: acc) r
    | none => none
  | '\\' :: c :: r =>
    match simpleEscape? c with
    | some e => stringTail (e :: acc) r
    | none => none
  | c :: r => if c.toNat < 32 then none else stringTail (c :: acc) r

def digitsOf (cs : List Char) : List Nat × List Char :=
  ((cs.takeWhile Char.isDigit).map fun c => c.toNat - 48, cs.dropWhile Char.isDigit)

def word64Max : Nat := 18446744073709551615

/-- Appends digits to a significand as long as it fits 64 bits; returns the digits left out. -/
def absorb (s : Nat) : List Nat → Nat × List Nat
  | [] => (s, [])
  | d :: r => if s * 10 + d ≤ word64Max then absorb (s * 10 + d) r else (s, d :: r)

/-- `f · 10 ^ e` in floating point; `none` when it overflows. -/
def scale : Nat → Float → Int → Option Float
  | 0, f, _ => some f
  | n + 1, f, e =>
    if e.natAbs ≤ 308 then
      let p := Float.ofScientific 1 false e.natAbs
      if 0 ≤ e then (if (f * p).isInf then none else some (f * p)) else some (f / p)
    else if f == 0.0 then some f
    else if 0 ≤ e then none
    else scale n (f / Float.ofScientific 1 false 308) (e + 308)

def floatOf (negative : Bool) (s : Nat) (e : Int) : Option Json :=
  (scale 4 (Float.ofNat s) e).map fun f => float (if negative then -f else f)

/-- The exponent part after `e`, if there is one. -/
def exponentOf : List Char → Option (Int × List Char)
  | 'e' :: '-' :: r | 'E' :: '-' :: r => signed (-1) r
  | 'e' :: '+' :: r | 'E' :: '+' :: r => signed 1 r
  | 'e' :: r | 'E' :: r => signed 1 r
  | r => some (0, r)
where
  signed (sign : Int) (r : List Char) : Option (Int × List Char) :=
    match digitsOf r with
    | ([], _) => none
    | (ds, r) => some (sign * (ds.foldl (fun n d => min (n * 10 + d) 100000) 0 : Nat), r)

def wholeNumber (negative : Bool) (s : Nat) : Option Json :=
  if ¬ negative then some (int s)
  else if s = 0 ∨ 9223372036854775808 < s then floatOf true s 0
  else some (int (-s))

def unsigned (negative : Bool) (cs : List Char) : Option (Json × List Char) := do
  let (ds, r) := digitsOf cs
  if ds = [] ∨ (ds.head? = some 0 ∧ 1 < ds.length) then none
  else
    let (s, rest) := absorb 0 ds
    match r with
    | '.' :: r =>
      let (fs, r) := digitsOf r
      if fs = [] then none
      else
        let (s, left) := if rest = [] then absorb s fs else (s, fs)
        let (e, r) ← exponentOf r
        let j ← floatOf negative s (e + rest.length - (fs.length - left.length : Nat))
        some (j, r)
    | 'e' :: _ | 'E' :: _ =>
      let (e, r) ← exponentOf r
      let j ← floatOf negative s (e + rest.length)
      some (j, r)
    | r =>
      let j ← if rest = [] then wholeNumber negative s else floatOf negative s rest.length
      some (j, r)

def number : List Char → Option (Json × List Char)
  | '-' :: r => unsigned true r
  | r => unsigned false r

mutual

/-- One value; `fuel` bounds the nesting. -/
def value : Nat → List Char → Option (Json × List Char)
  | 0, _ => none
  | fuel + 1, cs =>
    match skipBlanks cs with
    | 'n' :: 'u' :: 'l' :: 'l' :: r => some (null, r)
    | 't' :: 'r' :: 'u' :: 'e' :: r => some (bool true, r)
    | 'f' :: 'a' :: 'l' :: 's' :: 'e' :: r => some (bool false, r)
    | '"' :: r => (stringTail [] r).map fun (s, r) => (str s, r)
    | '[' :: r =>
      match skipBlanks r with
      | ']' :: r => some (arr [], r)
      | r => (items fuel [] r).map fun (l, r) => (arr l, r)
    | '{' :: r =>
      match skipBlanks r with
      | '}' :: r => some (obj [], r)
      | r => (memberList fuel [] r).map fun (l, r) => (object l, r)
    | r => number r

/-- Items up to the closing bracket; `acc` holds those read, last first. -/
def items : Nat → List Json → List Char → Option (List Json × List Char)
  | 0, _, _ => none
  | fuel + 1, acc, cs => do
    let (v, r) ← value fuel cs
    match skipBlanks r with
    | ',' :: r => items fuel (v :: acc) r
    | ']' :: r => some ((v :: acc).reverse, r)
    | _ => none

/-- Members up to the closing brace. -/
def memberList : Nat → List (String × Json) → List Char →
    Option (List (String × Json) × List Char)
  | 0, _, _ => none
  | fuel + 1, acc, cs =>
    match skipBlanks cs with
    | '"' :: r => do
      let (k, r) ← stringTail [] r
      match skipBlanks r with
      | ':' :: r =>
        let (v, r) ← value fuel r
        match skipBlanks r with
        | ',' :: r => memberList fuel ((k, v) :: acc) r
        | '}' :: r => some (((k, v) :: acc).reverse, r)
        | _ => none
      | _ => none
    | _ => none

end

/-- The value a text denotes; nothing but blanks may follow it. -/
def parse (s : String) : Option Json := do
  let cs := s.toList
  let (v, r) ← value (cs.length + 1) cs
  if skipBlanks r = [] then some v else none

end Grouping.Json.Reader
