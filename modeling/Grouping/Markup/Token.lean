import Grouping.Markup.CharRef

/-! # Tokens of markup

A text is read one token at a time. Between tokens the reader decides how the text that follows is to
be read: as markup, or as the raw content of an element up to its end tag. Names of tags and attributes
are lower-cased; of two attributes of one name the first counts. A tag that the text does not finish is
dropped.
-/

namespace Grouping.Markup

structure Attribute where
  name : String
  value : String
  deriving DecidableEq, Inhabited

structure Tag where
  name : String
  attributes : List Attribute := []
  selfClosing : Bool := false
  deriving DecidableEq, Inhabited

namespace Tag

def value? (t : Tag) (name : String) : Option String :=
  (t.attributes.find? fun a => a.name = name).map Attribute.value

end Tag

inductive Token where
  | text (cs : List Char)
  | startTag (t : Tag)
  | endTag (t : Tag)
  | comment
  | doctype
  deriving DecidableEq, Inhabited

/-- How the text that follows is read. -/
inductive Reading where
  | markup
  /-- Text with character references, up to the end tag of an element. -/
  | escapable (element : String)
  /-- Text up to the end tag of an element. -/
  | raw (element : String)
  /-- Text up to the end tag of a script that is not hidden in a comment of the script. -/
  | script
  /-- Text up to the end of the input. -/
  | plain
  deriving DecidableEq, Inhabited

namespace Token

def isSpace (c : Char) : Bool :=
  c = '\t' || c = '\n' || c = '\x0c' || c = '\r' || c = ' '

def lower (cs : List Char) : String := String.ofList (cs.map Char.toLower)

/-- No null character gets into names, values and raw content. -/
def unnull (c : Char) : Char := if c = '\x00' then CharRef.replacement else c

/-- Line ends are single line feeds, and a mark of the byte order at the start is dropped. -/
def normalize : List Char → List Char
  | '\uFEFF' :: r => lines r
  | cs => lines cs
where
  lines : List Char → List Char
    | [] => []
    | '\r' :: '\n' :: r => '\n' :: lines r
    | '\r' :: r => '\n' :: lines r
    | c :: r => c :: lines r

/-! ## Tags -/

def endsName (c : Char) : Bool := isSpace c || c = '/' || c = '>'

/-- Where the reader stands in a tag; texts are kept last character first. -/
inductive InTag where
  | before
  | name (n : List Char)
  | afterName (n : List Char)
  | beforeValue (n : List Char)
  | value (quote : Option Char) (n v : List Char)
  | afterSlash

/-- The part of a tag after its name. -/
structure Attributes where
  attributes : List Attribute := []
  selfClosing : Bool := false

namespace Attributes

def add (a : Attributes) (n v : List Char) : Attributes :=
  let name := lower (n.reverse.map unnull)
  if a.attributes.any fun b => b.name = name then a
  else
    let value := CharRef.decode true (v.reverse.map unnull)
    { a with attributes := a.attributes ++ [⟨name, String.ofList value⟩] }

/-- The next position in the tag; `none` when the tag ends. -/
def between (a : Attributes) (c : Char) : Attributes × Option InTag :=
  if isSpace c then (a, some .before)
  else if c = '/' then (a, some .afterSlash)
  else if c = '>' then (a, none)
  else (a, some (.name [c]))

def unquoted (a : Attributes) (n v : List Char) (c : Char) : Attributes × Option InTag :=
  if isSpace c then (a.add n v, some .before)
  else if c = '>' then (a.add n v, none)
  else (a, some (.value none n (c :: v)))

def step (a : Attributes) (place : InTag) (c : Char) : Attributes × Option InTag :=
  match place with
  | .before => a.between c
  | .name n =>
    if isSpace c then (a, some (.afterName n))
    else if c = '=' then (a, some (.beforeValue n))
    else if c = '/' ∨ c = '>' then (a.add n []).between c
    else (a, some (.name (c :: n)))
  | .afterName n =>
    if isSpace c then (a, some (.afterName n))
    else if c = '=' then (a, some (.beforeValue n))
    else (a.add n []).between c
  | .beforeValue n =>
    if isSpace c then (a, some (.beforeValue n))
    else if c = '"' ∨ c = '\'' then (a, some (.value (some c) n []))
    else a.unquoted n [] c
  | .value none n v => a.unquoted n v c
  | .value (some q) n v =>
    if c = q then (a.add n v, some .before) else (a, some (.value (some q) n (c :: v)))
  | .afterSlash => if c = '>' then ({ a with selfClosing := true }, none) else a.between c

/-- Reads up to the end of the tag; `none` when the text ends first. -/
def read? (a : Attributes) (place : InTag) : List Char → Option (Attributes × List Char)
  | [] => none
  | c :: r =>
    match a.step place c with
    | (a, some place) => read? a place r
    | (a, none) => some (a, r)

end Attributes

/-- The tag that starts with its name; `none` when the text ends first. -/
def tag? (cs : List Char) : Option (Tag × List Char) := do
  let name := cs.takeWhile fun c => ! endsName c
  let (a, rest) ← Attributes.read? {} .before (cs.dropWhile fun c => ! endsName c)
  some (⟨lower (name.map unnull), a.attributes, a.selfClosing⟩, rest)

/-! ## Declarations and comments -/

/-- What follows a comment, given the text after its opening. -/
def afterComment : List Char → List Char
  | '>' :: r => r
  | '-' :: '>' :: r => r
  | cs => close cs
where
  close : List Char → List Char
    | [] => []
    | '-' :: '-' :: '>' :: r => r
    | '-' :: '-' :: '!' :: '>' :: r => r
    | _ :: r => close r

/-- What follows the next `>`. -/
def afterMark (cs : List Char) : List Char := (cs.dropWhile (· ≠ '>')).drop 1

/-- The text of a verbatim section and what follows it. -/
def verbatim : List Char → List Char × List Char
  | [] => ([], [])
  | ']' :: ']' :: '>' :: r => ([], r)
  | c :: r =>
    let (cs, rest) := verbatim r
    (c :: cs, rest)

/-- Reads after `<!`. Verbatim sections exist only where `foreign` elements are open. -/
def declaration (foreign : Bool) : List Char → Option Token × List Char
  | '-' :: '-' :: r => (some comment, afterComment r)
  | '[' :: 'C' :: 'D' :: 'A' :: 'T' :: 'A' :: '[' :: r =>
    if foreign then
      let (cs, rest) := verbatim r
      (some (text cs), rest)
    else (some comment, afterMark r)
  | cs =>
    (some (if lower (cs.take 7) = "doctype" then doctype else comment), afterMark cs)

/-! ## Raw content -/

/-- Does the text start with a name that ends there? -/
def startsWithName (name : String) (cs : List Char) : Bool :=
  let n := name.toList
  lower (cs.take n.length) = name && (cs.drop n.length).head?.any endsName

/-- The content of an element up to its end tag. -/
def rawContent (element : String) : List Char → List Char × List Char
  | [] => ([], [])
  | '<' :: '/' :: r =>
    if startsWithName element r then ([], '<' :: '/' :: r)
    else
      let (cs, rest) := rawContent element ('/' :: r)
      ('<' :: cs, rest)
  | c :: r =>
    let (cs, rest) := rawContent element r
    (c :: cs, rest)

/-- Where the reader stands in a script: outside comments, in a comment, or in a comment after the
start tag of a script. In comments it counts the hyphens before it, up to two. -/
inductive InScript where
  | plain
  | comment (hyphens : Nat)
  | nested (hyphens : Nat)

namespace InScript

/-- The position after a character that is followed by `r`. -/
def next (c : Char) (r : List Char) : InScript → InScript
  | plain => if c = '<' ∧ ['!', '-', '-'].isPrefixOf r then comment 0 else plain
  | comment n =>
    if c = '-' then comment (min 2 (n + 1))
    else if c = '>' ∧ n = 2 then plain
    else if c = '<' ∧ startsWithName "script" r then nested 0
    else comment 0
  | nested n =>
    if c = '-' then nested (min 2 (n + 1))
    else if c = '>' ∧ n = 2 then plain
    else if c = '<' ∧ r.head? = some '/' ∧ startsWithName "script" r.tail then comment 0
    else nested 0

def mayEnd : InScript → Bool
  | nested _ => false
  | _ => true

end InScript

def scriptContent (place : InScript) : List Char → List Char × List Char
  | [] => ([], [])
  | c :: r =>
    if place.mayEnd ∧ c = '<' ∧ r.head? = some '/' ∧ startsWithName "script" r.tail then ([], c :: r)
    else
      let (cs, rest) := scriptContent (place.next c r) r
      (c :: cs, rest)

/-! ## Reading a token -/

/-- Reads a token of markup. Some markup stands for no token. -/
def readMarkup (foreign : Bool) : List Char → Option Token × List Char
  | [] => (none, [])
  | '<' :: '!' :: r => declaration foreign r
  | '<' :: '/' :: '>' :: r => (none, r)
  | '<' :: '/' :: c :: r =>
    if c.isAlpha then
      match tag? (c :: r) with
      | some (t, rest) => (some (endTag t), rest)
      | none => (none, [])
    else (some comment, afterMark (c :: r))
  | '<' :: '?' :: r => (some comment, afterMark r)
  | '<' :: c :: r =>
    if c.isAlpha then
      match tag? (c :: r) with
      | some (t, rest) => (some (startTag t), rest)
      | none => (none, [])
    else (some (text ['<']), c :: r)
  | c :: r =>
    let run := c :: r.takeWhile (· ≠ '<')
    (some (text (CharRef.decode false run)), r.dropWhile (· ≠ '<'))

/-- Reads raw content, unless there is none, and the tag that ends it. -/
def readRaw (decode : List Char → List Char) (content : List Char × List Char) :
    Option Token × List Char :=
  match content with
  | ([], rest) => readMarkup false rest
  | (cs, rest) => (some (text (decode (cs.map unnull))), rest)

/-- Reads one token of a text that is not empty, and returns the rest of the text. -/
def read (foreign : Bool) (reading : Reading) (cs : List Char) : Option Token × List Char :=
  match reading with
  | .markup => readMarkup foreign cs
  | .escapable e => readRaw (CharRef.decode false) (rawContent e cs)
  | .raw e => readRaw id (rawContent e cs)
  | .script => readRaw id (scriptContent .plain cs)
  | .plain => (some (text (cs.map unnull)), [])

end Token

end Grouping.Markup
