import Grouping.Json
import Grouping.Decimal.Shortest

/-! # JSON text of a value

Compact text: no blanks, members in the order the object lists them, control characters escaped.
-/

namespace Grouping.Json

def hexDigit (n : Nat) : Char := (Nat.digitChar n)

def escapeChar (c : Char) : List Char :=
  if c = '"' then ['\\', '"']
  else if c = '\\' then ['\\', '\\']
  else if c.toNat < 32 then
    ['\\', 'u', '0', '0', hexDigit (c.toNat / 16), hexDigit (c.toNat % 16)]
  else [c]

def quote (s : String) : String :=
  "\"" ++ String.ofList (s.toList.flatMap escapeChar) ++ "\""

mutual

def render : Json → String
  | null => "null"
  | bool true => "true"
  | bool false => "false"
  | int n => toString n
  | float f => Decimal.floatText f
  | str s => quote s
  | arr items => "[" ++ renderItems true items ++ "]"
  | obj members => "\x7b" ++ renderMembers true members ++ "\x7d"

def renderItems (first : Bool) : List Json → String
  | [] => ""
  | v :: r => (if first then "" else ",") ++ render v ++ renderItems false r

def renderMembers (first : Bool) : List (String × Json) → String
  | [] => ""
  | (k, v) :: r =>
    (if first then "" else ",") ++ quote k ++ ":" ++ render v ++ renderMembers false r

end

end Grouping.Json
