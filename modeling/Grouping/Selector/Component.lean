import Grouping.Text.Digit

/-! # Components of a style text

A text is read into tokens, and tokens into components, in which a block is one component. Blocks that
are not closed go on to the end of the text; a closing bracket that closes nothing is a fault.
-/

namespace Grouping.Selector

inductive Bracket where
  | round
  | square
  | curly
  deriving DecidableEq, Inhabited

/-- A numeric token; `whole` is its value if it is written without fraction and exponent. -/
structure Numeral where
  signed : Bool
  whole : Option Int
  deriving DecidableEq, Inhabited

inductive Component where
  | blank
  | ident (name : String)
  /-- A hash; it names an element only if it is an identifier. -/
  | hash (name : String) (isIdent : Bool)
  | text (s : String)
  | number (n : Numeral)
  | dimension (n : Numeral) (unit : String)
  | comma
  | colon
  | delim (c : Char)
  /-- An operator of two characters that ends in `=`. -/
  | comparison (c : Char)
  | block (b : Bracket) (content : List Component)
  | function (name : String) (content : List Component)
  /-- A token without use in selectors. -/
  | other
  | fault
  deriving Inhabited

namespace Component

def isSpace (c : Char) : Bool :=
  c = ' ' || c = '\t' || c = '\n' || c = '\r' || c = '\x0c'

def isNewline (c : Char) : Bool := c = '\n' || c = '\r' || c = '\x0c'

def replacement : Char := '\uFFFD'

/-! ## Names -/

def isNameStart (c : Char) : Bool := c.isAlpha || c = '_' || c = '\x00' || 0x80 ≤ c.toNat

def isNameChar (c : Char) : Bool := isNameStart c || c.isDigit || c = '-'

def startsEscape : List Char → Bool
  | '\\' :: c :: _ => ! isNewline c
  | ['\\'] => true
  | _ => false

/-- Does the text begin with an identifier? -/
def startsIdent : List Char → Bool
  | '-' :: '-' :: _ => true
  | '-' :: c :: r => isNameStart c || startsEscape (c :: r)
  | c :: r => isNameStart c || startsEscape (c :: r)
  | [] => false

def ofCode (n : Nat) : Char :=
  if n = 0 ∨ 0x10FFFF < n ∨ (0xD800 ≤ n ∧ n < 0xE000) then replacement else Char.ofNat n

def dropSpace : List Char → List Char
  | '\r' :: '\n' :: r => r
  | c :: r => if isSpace c then r else c :: r
  | [] => []

/-- The character of an escape, given what follows the backslash. -/
def escape : List Char → Char × List Char
  | [] => (replacement, [])
  | c :: r =>
    let digits := (c :: r).takeWhile (Text.isDigitOf 16) |>.take 6
    if digits = [] then (if c = '\x00' then replacement else c, r)
    else (ofCode (Text.ofDigits 16 digits), dropSpace ((c :: r).drop digits.length))

/-- The name at the start of a text; `fuel` bounds the text. -/
def nameWithin : Nat → List Char → List Char × List Char
  | 0, cs => ([], cs)
  | _, [] => ([], [])
  | fuel + 1, c :: r =>
    if isNameChar c then
      let (name, rest) := nameWithin fuel r
      ((if c = '\x00' then replacement else c) :: name, rest)
    else if startsEscape (c :: r) then
      let (e, r) := escape r
      let (name, rest) := nameWithin fuel r
      (e :: name, rest)
    else ([], c :: r)

def name (cs : List Char) : String × List Char :=
  let (n, rest) := nameWithin cs.length cs
  (String.ofList n, rest)

/-! ## Quoted texts, comments and numbers -/

/-- The rest of a quoted text; `none` when a line ends in it. -/
def quotedWithin (quote : Char) : Nat → List Char → Option (List Char) × List Char
  | 0, cs => (some [], cs)
  | _, [] => (some [], [])
  | fuel + 1, c :: r =>
    if c = quote then (some [], r)
    else if isNewline c then (none, c :: r)
    else if c = '\\' then
      match r with
      | [] => (some [], [])
      | '\r' :: '\n' :: r => quotedWithin quote fuel r
      | d :: r' =>
        if isNewline d then quotedWithin quote fuel r'
        else
          let (e, r) := escape r
          let (s, rest) := quotedWithin quote fuel r
          (s.map (e :: ·), rest)
    else
      let (s, rest) := quotedWithin quote fuel r
      (s.map ((if c = '\x00' then replacement else c) :: ·), rest)

def afterComment : List Char → List Char
  | [] => []
  | '*' :: '/' :: r => r
  | _ :: r => afterComment r

def startsNumber : List Char → Bool
  | '.' :: c :: _ => c.isDigit
  | c :: _ => c.isDigit
  | [] => false

/-- The part of a number after its integer digits, and whether there is any. -/
def fraction : List Char → Bool × List Char
  | '.' :: c :: r => if c.isDigit then (true, r.dropWhile Char.isDigit) else (false, '.' :: c :: r)
  | cs => (false, cs)

def exponent : List Char → Bool × List Char
  | e :: c :: r =>
    if e = 'e' ∨ e = 'E' then
      if c.isDigit then (true, r.dropWhile Char.isDigit)
      else if (c = '+' ∨ c = '-') ∧ r.head?.any Char.isDigit then (true, r.dropWhile Char.isDigit)
      else (false, e :: c :: r)
    else (false, e :: c :: r)
  | cs => (false, cs)

/-- Values stay within 32 bits. -/
def clamp (n : Int) : Int := max (-2147483648) (min 2147483647 n)

/-- A number without its sign, with a unit if one follows. -/
def numeric (signed : Bool) (sign : Int) (cs : List Char) : Component × List Char :=
  let digits := cs.takeWhile Char.isDigit
  let (hasFraction, r) := fraction (cs.dropWhile Char.isDigit)
  let (hasExponent, r) := exponent r
  let n : Numeral :=
    ⟨signed, if hasFraction || hasExponent then none
      else some (clamp (sign * Text.ofDigits 10 digits))⟩
  match r with
  | '%' :: r => (other, r)
  | r =>
    if startsIdent r then
      let (unit, rest) := name r
      (dimension n unit, rest)
    else (number n, r)

/-! ## Tokens -/

/-- What a text starts with: a component without content, or a bracket. -/
inductive Lexeme where
  | leaf (c : Component)
  | openFunction (name : String)
  | opening (b : Bracket)
  | closing (b : Bracket)
  | comment

def identLike (cs : List Char) : Lexeme × List Char :=
  match name cs with
  | (n, '(' :: r) => (.openFunction n, r)
  | (n, r) => (.leaf (ident n), r)

def lexeme (c : Char) (r : List Char) : Lexeme × List Char :=
  let single (x : Component) := (Lexeme.leaf x, r)
  let maybeComparison :=
    match r with
    | '=' :: r => (Lexeme.leaf (comparison c), r)
    | _ => single (delim c)
  match c with
  | '"' | '\'' =>
    match quotedWithin c r.length r with
    | (some s, rest) => (.leaf (text (String.ofList s)), rest)
    | (none, rest) => (.leaf fault, rest)
  | '#' =>
    if startsIdent r || r.head?.any isNameChar then
      let (n, rest) := name r
      (.leaf (hash n (startsIdent r)), rest)
    else single (delim '#')
  | '(' => (.opening .round, r)
  | '[' => (.opening .square, r)
  | '{' => (.opening .curly, r)
  | ')' => (.closing .round, r)
  | ']' => (.closing .square, r)
  | '}' => (.closing .curly, r)
  | ',' => single comma
  | ':' => single colon
  | ';' => single other
  | '$' | '*' | '^' | '|' | '~' => maybeComparison
  | '/' =>
    match r with
    | '*' :: r => (.comment, afterComment r)
    | _ => single (delim '/')
  | '@' =>
    if startsIdent r then (.leaf other, (name r).2) else single (delim '@')
  | '<' =>
    match r with
    | '!' :: '-' :: '-' :: r => (.leaf other, r)
    | _ => single (delim '<')
  | '+' =>
    if startsNumber r then
      let (n, rest) := numeric true 1 r
      (.leaf n, rest)
    else single (delim '+')
  | '-' =>
    if startsNumber r then
      let (n, rest) := numeric true (-1) r
      (.leaf n, rest)
    else
      match r with
      | '-' :: '>' :: r => (.leaf other, r)
      | _ => if startsIdent (c :: r) then identLike (c :: r) else single (delim '-')
  | _ =>
    if startsNumber (c :: r) then
      let (n, rest) := numeric false 1 (c :: r)
      (.leaf n, rest)
    else if startsIdent (c :: r) then identLike (c :: r)
    else single (delim c)

/-- The lexemes of a text; every one takes at least one character of it. -/
def lexemesWithin : Nat → List Char → List Lexeme
  | 0, _ | _, [] => []
  | fuel + 1, c :: r =>
    if isSpace c then .leaf blank :: lexemesWithin fuel (r.dropWhile isSpace)
    else
      let (l, rest) := lexeme c r
      l :: lexemesWithin fuel rest

/-! ## Blocks -/

/-- A block that is still open, with its content so far, last component first. -/
structure Pending where
  bracket : Bracket
  functionName : Option String
  content : List Component

namespace Pending

def close (p : Pending) : Component :=
  match p.functionName with
  | some n => function n p.content.reverse
  | none => block p.bracket p.content.reverse

/-- Adds a component to the innermost block, or to the top. -/
def add (c : Component) : List Pending → List Component → List Pending × List Component
  | [], top => ([], c :: top)
  | p :: outer, top => ({ p with content := c :: p.content } :: outer, top)

end Pending

/-- Sorts lexemes into blocks; `stack` holds the open blocks, the innermost first. -/
def nest (stack : List Pending) (top : List Component) : List Lexeme → List Component
  | [] =>
    let closeAll := stack.foldl
      (fun (c : List Component) p => { p with content := c ++ p.content }.close :: []) []
    (closeAll ++ top).reverse
  | .leaf c :: r =>
    let (stack, top) := Pending.add c stack top
    nest stack top r
  | .comment :: r => nest stack top r
  | .openFunction n :: r => nest (⟨.round, some n, []⟩ :: stack) top r
  | .opening b :: r => nest (⟨b, none, []⟩ :: stack) top r
  | .closing b :: r =>
    match stack with
    | [] => nest [] (fault :: top) r
    | p :: outer =>
      if p.bracket = b then
        let (outer, top) := Pending.add p.close outer top
        nest outer top r
      else nest ({ p with content := fault :: p.content } :: outer) top r

def ofText (s : String) : List Component :=
  let cs := s.toList
  nest [] [] (lexemesWithin cs.length cs)

end Component

end Grouping.Selector
