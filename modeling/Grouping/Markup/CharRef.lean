import Grouping.Markup.CharRef.Names
import Grouping.Text.Digit

/-! # Character references

A reference is `&` with a name of the table, or `&#` with a number. The longest name of the table that
begins the text counts. A name without its semicolon is left alone in an attribute value when a letter,
a digit or `=` follows it.
-/

namespace Grouping.Markup.CharRef

/-- A name as it follows `&`, and what it stands for. -/
structure Named where
  name : List Char
  value : List Char

/-- Reads an entry `name=code+code`. -/
def Named.ofText (cs : List Char) : Named :=
  let codes := (cs.dropWhile (· ≠ '=')).drop 1
  ⟨cs.takeWhile (· ≠ '='),
    (codes.splitOn '+').map fun code => Char.ofNat (Text.ofDigits 16 code)⟩

def named : List Named :=
  namedText.flatMap fun line => (line.toList.splitOn ' ').map Named.ofText

/-- The longest of the names that begin a text. -/
def longest? (cs : List Char) : Option Named :=
  named.foldl
    (fun best n =>
      if n.name.isPrefixOf cs ∧ ∀ b ∈ best, b.name.length < n.name.length then some n else best)
    none

def isAsciiAlnum (c : Char) : Bool := c.isAlpha || c.isDigit

/-- In an attribute value a name that lacks its semicolon must not run on. -/
def runsOn (name rest : List Char) : Bool :=
  name.getLast? ≠ some ';' && rest.head?.any fun c => c = '=' || isAsciiAlnum c

/-- The characters that the code points 0x80 to 0x9F stand for in a reference; five of them stand
for themselves. -/
def controls : List Nat :=
  [0x20AC, 0x81, 0x201A, 0x192, 0x201E, 0x2026, 0x2020, 0x2021, 0x2C6, 0x2030, 0x160, 0x2039, 0x152,
    0x8D, 0x17D, 0x8F, 0x90, 0x2018, 0x2019, 0x201C, 0x201D, 0x2022, 0x2013, 0x2014, 0x2DC, 0x2122,
    0x161, 0x203A, 0x153, 0x9D, 0x17E, 0x178]

def replacement : Char := '\uFFFD'

def ofCode (n : Nat) : Char :=
  if n = 0 ∨ 0x10FFFF < n ∨ (0xD800 ≤ n ∧ n < 0xE000) then replacement
  else if 0x80 ≤ n ∧ n < 0xA0 then Char.ofNat (controls.getD (n - 0x80) n)
  else Char.ofNat n

/-- The digits of a numeric reference and an optional semicolon. -/
def numeric? (base : Nat) (cs : List Char) : Option (List Char × List Char) :=
  let digits := cs.takeWhile (Text.isDigitOf base)
  if digits = [] then none
  else
    let rest := cs.dropWhile (Text.isDigitOf base)
    some ([ofCode (Text.ofDigits base digits)], if rest.head? = some ';' then rest.tail else rest)

/-- The reference that starts after `&`, with the text that follows it. -/
def read? (inAttribute : Bool) : List Char → Option (List Char × List Char)
  | '#' :: 'x' :: r | '#' :: 'X' :: r => numeric? 16 r
  | '#' :: r => numeric? 10 r
  | cs => do
    let n ← longest? cs
    let rest := cs.drop n.name.length
    if inAttribute && runsOn n.name rest then none else some (n.value, rest)

/-- Replaces the references of a text; `fuel` bounds its length. -/
def decodeWithin (inAttribute : Bool) : Nat → List Char → List Char
  | 0, cs => cs
  | _, [] => []
  | fuel + 1, '&' :: r =>
    match read? inAttribute r with
    | some (value, rest) => value ++ decodeWithin inAttribute fuel rest
    | none => '&' :: decodeWithin inAttribute fuel r
  | fuel + 1, c :: r => c :: decodeWithin inAttribute fuel r

def decode (inAttribute : Bool) (cs : List Char) : List Char :=
  decodeWithin inAttribute cs.length cs

end Grouping.Markup.CharRef
