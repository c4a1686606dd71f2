/-! # White space

The characters with the Unicode property White_Space, and texts freed of them at both ends.
-/

namespace Grouping.Text

def isBlank (c : Char) : Bool :=
  let n := c.toNat
  (9 ≤ n && n ≤ 13) || n = 0x20 || n = 0x85 || n = 0xA0 || n = 0x1680 ||
    (0x2000 ≤ n && n ≤ 0x200A) || n = 0x2028 || n = 0x2029 || n = 0x202F || n = 0x205F || n = 0x3000

def trimStart (cs : List Char) : List Char := cs.dropWhile isBlank

def trimEnd (cs : List Char) : List Char := (trimStart cs.reverse).reverse

def trim (cs : List Char) : List Char := trimEnd (trimStart cs)

/-- The pieces of a text between the characters of a class; always at least one. -/
def piecesBy (separates : Char → Bool) : List Char → List (List Char)
  | [] => [[]]
  | c :: r =>
    if separates c then [] :: piecesBy separates r
    else
      match piecesBy separates r with
      | [] => [[c]]
      | p :: ps => (c :: p) :: ps

/-- The pieces of a text between the occurrences of a separator. -/
def pieces (sep : Char) (cs : List Char) : List (List Char) := piecesBy (· = sep) cs

theorem piecesBy_ne_nil (separates : Char → Bool) (cs : List Char) : piecesBy separates cs ≠ [] := by
  cases cs with
  | nil => exact List.cons_ne_nil _ _
  | cons c r =>
    rw [piecesBy]
    split
    · exact List.cons_ne_nil _ _
    · split <;> exact List.cons_ne_nil _ _

end Grouping.Text
