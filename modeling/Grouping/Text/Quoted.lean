import Grouping.Text.Visibility

/-! # Quoted texts

A text between double quotes, with escapes for quotes, backslashes and what would not be seen: the
common control characters have short escapes, all others are written by their code point.
-/

namespace Grouping.Text

def shortEscape? (c : Char) : Option Char :=
  match c with
  | '\x00' => some '0'
  | '\t' => some 't'
  | '\r' => some 'r'
  | '\n' => some 'n'
  | '\\' => some '\\'
  | '"' => some '"'
  | _ => none

def codeEscape (c : Char) : List Char :=
  ['\\', 'u', '{'] ++ Nat.toDigits 16 c.toNat ++ ['}']

def escape (c : Char) : List Char :=
  match shortEscape? c with
  | some s => ['\\', s]
  | none =>
    if c.toNat < 0x7F ∧ 0x20 ≤ c.toNat then [c]
    else if isExtending c || isInvisible c then codeEscape c
    else [c]

def quoted (s : String) : String := "\"" ++ String.ofList (s.toList.flatMap escape) ++ "\""

end Grouping.Text
