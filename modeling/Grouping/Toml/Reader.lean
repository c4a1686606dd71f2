import Grouping.Toml.Scalar

/-! # Reading TOML text

Every line of a document is blank, opens a table, or gives a value to a key. Arrays and inline tables
may go over several lines and may end with a comma.
-/

namespace Grouping.Toml.Reader

def isSpace (c : Char) : Bool := c = ' ' || c = '\t'

def skipSpaces (cs : List Char) : List Char := cs.dropWhile isSpace

/-- Control characters other than the tabulator stand in no text and no comment. -/
def isAllowed (c : Char) : Bool := c = '\t' || (0x20 ≤ c.toNat && c.toNat ≠ 0x7F)

def newline? : List Char → Option (List Char)
  | '\n' :: r => some r
  | '\r' :: '\n' :: r => some r
  | _ => none

/-- Drops a comment, if one starts here, but not the end of its line. -/
def skipComment : List Char → List Char
  | '#' :: r => r.dropWhile isAllowed
  | r => r

/-- The next line; nothing but blanks and a comment may come before it. -/
def endOfLine? (cs : List Char) : Option (List Char) :=
  match skipComment (skipSpaces cs) with
  | [] => some []
  | r => newline? r

/-- Drops blanks, line ends and comments; `fuel` bounds the text. -/
def skipLinesWithin : Nat → List Char → List Char
  | 0, cs => cs
  | fuel + 1, cs =>
    let r := skipComment (skipSpaces cs)
    match newline? r with
    | some r => skipLinesWithin fuel r
    | none => r

def skipLines (cs : List Char) : List Char := skipLinesWithin (cs.length + 1) cs

/-! ## Strings -/

def scalarOf? (n : Nat) : Option Char :=
  if n < 0xD800 ∨ (0xE000 ≤ n ∧ n < 0x110000) then some (Char.ofNat n) else none

/-- A code point of exactly `n` hexadecimal digits. -/
def code? (n : Nat) (cs : List Char) : Option (Char × List Char) :=
  let ds := cs.take n
  if ds.length = n ∧ ds.all (Text.isDigitOf 16) then
    (scalarOf? (Text.ofDigits 16 ds)).map fun c => (c, cs.drop n)
  else none

/-- The character of an escape, given what follows the backslash. -/
def escape? : List Char → Option (Char × List Char)
  | 'b' :: r => some ('\x08', r)
  | 't' :: r => some ('\t', r)
  | 'n' :: r => some ('\n', r)
  | 'f' :: r => some ('\x0c', r)
  | 'r' :: r => some ('\r', r)
  | 'e' :: r => some ('\x1b', r)
  | '"' :: r => some ('"', r)
  | '\\' :: r => some ('\\', r)
  | 'x' :: r => code? 2 r
  | 'u' :: r => code? 4 r
  | 'U' :: r => code? 8 r
  | _ => none

/-- Puts a character before a text that was read. -/
def cons (c : Char) (p : Option (List Char × List Char)) : Option (List Char × List Char) :=
  p.map fun (s, r) => (c :: s, r)

/-- The rest of a string on one line. -/
def basicTail : Nat → List Char → Option (List Char × List Char)
  | 0, _ | _, [] => none
  | fuel + 1, c :: r =>
    if c = '"' then some ([], r)
    else if c = '\\' then escape? r >>= fun (e, r) => cons e (basicTail fuel r)
    else if isAllowed c then cons c (basicTail fuel r)
    else none

def literalTail : List Char → Option (List Char × List Char)
  | [] => none
  | c :: r =>
    if c = '\'' then some ([], r) else if isAllowed c then cons c (literalTail r) else none

/-- The quotes at the start of a text that end a string: up to two more than three belong to it. -/
def closing? (quote : Char) (cs : List Char) : Option (List Char × List Char) :=
  let n := min 5 (cs.takeWhile (· = quote)).length
  if 3 ≤ n then some (List.replicate (n - 3) quote, cs.drop n) else none

/-- What follows an escaped line end: the first character that is not blank. -/
def continued? (cs : List Char) : Option (List Char) :=
  (newline? (skipSpaces cs)).map fun r => r.dropWhile fun c => isSpace c || c = '\n' || c = '\r'

/-- The rest of a string over several lines, whose quote decides about escapes. -/
def linesTail (quote : Char) : Nat → List Char → Option (List Char × List Char)
  | 0, _ | _, [] => none
  | fuel + 1, c :: r =>
    match closing? quote (c :: r) with
    | some (s, r) => some (s, r)
    | none =>
      if c = '\\' ∧ quote = '"' then
        match continued? r with
        | some r => linesTail quote fuel r
        | none => escape? r >>= fun (e, r) => cons e (linesTail quote fuel r)
      else
        match newline? (c :: r) with
        | some r => cons '\n' (linesTail quote fuel r)
        | none => if isAllowed c then cons c (linesTail quote fuel r) else none

/-- A line end right after the opening quotes does not count. -/
def lines? (quote : Char) (cs : List Char) : Option (List Char × List Char) :=
  let cs := (newline? cs).getD cs
  linesTail quote cs.length cs

/-- A string on one line. -/
def lineString? : List Char → Option (List Char × List Char)
  | '"' :: r => basicTail r.length r
  | '\'' :: r => literalTail r
  | _ => none

def string? : List Char → Option (List Char × List Char)
  | '"' :: '"' :: '"' :: r => lines? '"' r
  | '\'' :: '\'' :: '\'' :: r => lines? '\'' r
  | cs => lineString? cs

/-! ## Keys -/

def isBare (c : Char) : Bool := c.isAlpha || c.isDigit || c = '_' || c = '-'

def simpleKey? (cs : List Char) : Option (String × List Char) :=
  match lineString? cs with
  | some (s, r) => some (String.ofList s, r)
  | none =>
    let key := cs.takeWhile isBare
    if key = [] then none else some (String.ofList key, cs.dropWhile isBare)

/-- A dotted key; `fuel` bounds the text. -/
def keyWithin : Nat → List Char → Option (List String × List Char)
  | 0, _ => none
  | fuel + 1, cs => do
    let (k, r) ← simpleKey? (skipSpaces cs)
    match skipSpaces r with
    | '.' :: r =>
      let (ks, r) ← keyWithin fuel r
      some (k :: ks, r)
    | r => some ([k], r)

def key? (cs : List Char) : Option (List String × List Char) := keyWithin (cs.length + 1) cs

/-- A key with the sign after it. -/
def keyBeforeValue? (cs : List Char) : Option (List String × List Char) := do
  let (path, r) ← key? cs
  match r with
  | '=' :: r => some (path, skipSpaces r)
  | _ => none

/-! ## Values -/

def isScalarChar (c : Char) : Bool :=
  c.isAlpha || c.isDigit || ['+', '-', '_', '.', ':'].contains c

/-- An unquoted value. A blank may stand between a date and a time. -/
def scalar? (cs : List Char) : Option (Value × List Char) :=
  let first := cs.takeWhile isScalarChar
  let rest := cs.dropWhile isScalarChar
  match Scalar.date? first, rest with
  | some [], ' ' :: c :: r =>
    if c.isDigit then
      (Scalar.parse? (first ++ ' ' :: (c :: r).takeWhile isScalarChar)).map fun v =>
        (v, (c :: r).dropWhile isScalarChar)
    else (Scalar.parse? first).map fun v => (v, rest)
  | _, _ => (Scalar.parse? first).map fun v => (v, rest)

mutual

/-- One value; `fuel` bounds the nesting and the number of items. -/
def value : Nat → List Char → Option (Value × List Char)
  | 0, _ => none
  | fuel + 1, cs =>
    match cs with
    | '[' :: r => (items fuel [] (skipLines r)).map fun (l, r) => (.arr l, r)
    | '{' :: r => (pairs fuel (.mk .header []) (skipLines r)).map fun (t, r) => (.table t, r)
    | '"' :: _ | '\'' :: _ => (string? cs).map fun (s, r) => (.str (String.ofList s), r)
    | _ => scalar? cs

/-- Items up to the closing bracket; `acc` holds those read, last first. -/
def items : Nat → List Value → List Char → Option (List Value × List Char)
  | 0, _, _ => none
  | _ + 1, acc, ']' :: r => some (acc.reverse, r)
  | fuel + 1, acc, cs => do
    let (v, r) ← value fuel cs
    match skipLines r with
    | ',' :: r => items fuel (v :: acc) (skipLines r)
    | ']' :: r => some ((v :: acc).reverse, r)
    | _ => none

/-- Keys and values up to the closing brace. -/
def pairs : Nat → Table → List Char → Option (Table × List Char)
  | 0, _, _ => none
  | _ + 1, t, '}' :: r => some (t.withOrigin .inline, r)
  | fuel + 1, t, cs => do
    let (path, r) ← keyBeforeValue? cs
    let (v, r) ← value fuel r
    let t ← t.assign path v
    match skipLines r with
    | ',' :: r => pairs fuel t (skipLines r)
    | '}' :: r => some (t.withOrigin .inline, r)
    | _ => none

end

/-! ## Documents -/

/-- The path of a header and the rest of the text after its brackets. -/
def header? (close : List Char) (cs : List Char) : Option (List String × List Char) := do
  let (path, r) ← key? cs
  if close.isPrefixOf r then some (path, r.drop close.length) else none

/-- The lines of a document. Keys belong to the table of the header before them. -/
def document : Nat → List String → Table → List Char → Option Table
  | 0, _, _, _ => none
  | fuel + 1, here, root, cs =>
    match skipLines cs with
    | [] => some root
    | '[' :: '[' :: r => do
      let (path, r) ← header? [']', ']'] r
      let root ← root.defineRow path
      endOfLine? r >>= document fuel path root
    | '[' :: r => do
      let (path, r) ← header? [']'] r
      let root ← root.define path
      endOfLine? r >>= document fuel path root
    | cs => do
      let (path, r) ← keyBeforeValue? cs
      let (v, r) ← value (r.length + 1) r
      let root ← root.change false (Table.assign path v) here
      endOfLine? r >>= document fuel here root

/-- The table that a text denotes; a mark of the byte order may come first. -/
def parse? (s : String) : Option Table :=
  let cs :=
    match s.toList with
    | '\uFEFF' :: r => r
    | cs => cs
  document (cs.length + 1) [] (.mk .header []) cs

end Grouping.Toml.Reader
