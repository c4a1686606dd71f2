import Grouping.Text.Digit

/-! # Universally unique identifiers

An identifier is a sequence of 32 hexadecimal digits. Its canonical text groups them 8-4-4-4-12 with
hyphens, in lower case. Reading also takes upper case digits, the 32 digits without hyphens, and the
hyphenated text in braces or after `urn:uuid:`, whose letters have either case.
-/

namespace Grouping

structure Uuid where
  digits : List (Fin 16)
  length_digits : digits.length = 32
  deriving DecidableEq

namespace Uuid

def digitChar (d : Fin 16) : Char := Nat.digitChar d.val

def digitOf? (c : Char) : Option (Fin 16) := (Text.hexValue? c).map (Fin.ofNat 16)

theorem digitOf?_digitChar (d : Fin 16) : digitOf? (digitChar d) = some d := by
  revert d
  decide

/-- The widths of the hyphenated groups. -/
def widths : List Nat := [8, 4, 4, 4, 12]

def hyphenate : List Nat → List Char → List Char
  | [], cs => cs
  | [_], cs => cs
  | n :: ns, cs => cs.take n ++ '-' :: hyphenate ns (cs.drop n)

/-- Removes the hyphens between groups of the given widths; `none` when the text is not so grouped. -/
def unhyphenate? : List Nat → List Char → Option (List Char)
  | [], cs => if cs = [] then some [] else none
  | [n], cs => if cs.length = n then some cs else none
  | n :: ns, cs =>
    match cs.drop n with
    | '-' :: r => (unhyphenate? ns r).map (cs.take n ++ ·)
    | _ => none

def ofHex? (cs : List Char) : Option Uuid := do
  let ds ← cs.mapM digitOf?
  if h : ds.length = 32 then some ⟨ds, h⟩ else none

def ofHyphenated? (cs : List Char) : Option Uuid := unhyphenate? widths cs >>= ofHex?

/-- The last character of a braced text is its closing brace; the text between is returned. -/
def unbrace? (cs : List Char) : Option (List Char) :=
  if cs.getLast? = some '}' then some cs.dropLast else none

def urn : List Char := ['u', 'r', 'n', ':', 'u', 'u', 'i', 'd', ':']

def isUrn (cs : List Char) : Bool := (cs.take urn.length).map Char.toLower = urn

def ofChars? (cs : List Char) : Option Uuid :=
  match cs with
  | '{' :: r => unbrace? r >>= ofHyphenated?
  | cs =>
    if isUrn cs then ofHyphenated? (cs.drop urn.length)
    else if cs.length = 32 then ofHex? cs
    else ofHyphenated? cs

def parse? (s : String) : Option Uuid := ofChars? s.toList

def chars (u : Uuid) : List Char := hyphenate widths (u.digits.map digitChar)

def text (u : Uuid) : String := String.ofList u.chars

/-- The identifier whose digits spell the number `n` (modulo `16 ^ 32`). -/
def ofNat (n : Nat) : Uuid :=
  ⟨(List.range 32).map fun i => Fin.ofNat 16 (n / Nat.pow 16 (31 - i)), by simp⟩

instance : Inhabited Uuid := ⟨ofNat 0⟩

end Uuid

end Grouping
