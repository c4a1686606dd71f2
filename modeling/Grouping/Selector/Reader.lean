import Grouping.Selector
import Grouping.Selector.Component

/-! # Reading selectors

A text either is a list of selectors or describes nothing. Known are names, attributes, the four
combinators, positions among siblings, and selectors about selectors; no namespaces are declared, and
there are no states and no parts of elements to ask for.

In `:is` and `:where` an alternative that is no selector describes nothing and does no harm. `:has` may
not stand inside `:has`.
-/

namespace Grouping.Selector

open Component (blank ident text number dimension comma colon delim comparison block function
  fault)

def dropBlanks : List Component → List Component
  | blank :: r => dropBlanks r
  | r => r

mutual

/-- Is there a fault, at any depth? -/
def isFaulty : Component → Bool
  | fault => true
  | block _ content => anyFaulty content
  | function _ content => anyFaulty content
  | _ => false

def anyFaulty : List Component → Bool
  | [] => false
  | c :: r => isFaulty c || anyFaulty r

end

/-- The parts of a list between commas. -/
def commaParts : List Component → List (List Component)
  | [] => [[]]
  | comma :: r => [] :: commaParts r
  | c :: r =>
    match commaParts r with
    | [] => [[c]]
    | p :: ps => (c :: p) :: ps

/-! ## Names -/

/-- The type part of a compound; `some none` when there is none. -/
def type? : List Component → Option (Option Simple × List Component)
  | ident _ :: delim '|' :: _ => none
  | ident n :: r => some (some (.type n), r)
  | delim '*' :: delim '|' :: delim '*' :: r => some (some .any, r)
  | delim '*' :: delim '|' :: ident n :: r => some (some (.type n), r)
  | delim '*' :: delim '|' :: _ => none
  | delim '*' :: r => some (some .any, r)
  | delim '|' :: delim '*' :: r => some (some .never, r)
  | delim '|' :: ident _ :: r => some (some .never, r)
  | delim '|' :: _ => none
  | r => some (none, r)

/-- The name of an attribute, and whether its namespace does not matter. -/
def attributeName? : List Component → Option ((Bool × String) × List Component)
  | ident _ :: delim '|' :: _ => none
  | ident n :: r => some ((false, n), r)
  | delim '*' :: delim '|' :: ident n :: r => some ((true, n), r)
  | delim '|' :: ident n :: r => some ((false, n), r)
  | _ => none

/-- Attributes of HTML whose values do not distinguish letter case. -/
def caselessNames : List String :=
  ["accept", "accept-charset", "align", "alink", "axis", "bgcolor", "charset", "checked", "clear",
    "codetype", "color", "compact", "declare", "defer", "dir", "direction", "disabled", "enctype",
    "face", "frame", "hreflang", "http-equiv", "lang", "language", "link", "media", "method",
    "multiple", "nohref", "noresize", "noshade", "nowrap", "readonly", "rel", "rev", "rules", "scope",
    "scrolling", "selected", "shape", "target", "text", "type", "valign", "valuetype", "vlink"]

def comparison? : List Component → Option (Comparison × List Component)
  | delim '=' :: r => some (.equals, r)
  | comparison '~' :: r => some (.includes, r)
  | comparison '|' :: r => some (.dash, r)
  | comparison '^' :: r => some (.startsWith, r)
  | comparison '$' :: r => some (.endsWith, r)
  | comparison '*' :: r => some (.contains, r)
  | _ => none

def operand? : List Component → Option (String × List Component)
  | ident s :: r | text s :: r => some (s, r)
  | _ => none

/-- The mark after an operand that says how letters are compared. -/
def casing? (anyNamespace : Bool) (name : String) : List Component → Option Casing
  | [] => some (if ! anyNamespace && caselessNames.contains (lower name) then .insensitiveInHtml
      else .sensitive)
  | [ident m] =>
    if lower m = "i" then some .insensitive
    else if lower m = "s" then some .sensitive
    else none
  | _ => none

/-- The content of brackets. -/
def attribute? (cs : List Component) : Option Simple := do
  let ((anyNamespace, name), r) ← attributeName? (dropBlanks cs)
  match dropBlanks r with
  | [] => some (.attribute anyNamespace name none)
  | r =>
    let (c, r) ← comparison? r
    let (s, r) ← operand? (dropBlanks r)
    let casing ← casing? anyNamespace name ((dropBlanks r).filter fun c => ! c matches blank)
    some (.attribute anyNamespace name (some ⟨c, s, casing⟩))

/-! ## Progressions -/

/-- The number at the end of a unit such as `n-3`. -/
def dashed? (unit : String) : Option Int :=
  match unit.toList with
  | n :: '-' :: digits =>
    if (n = 'n' ∨ n = 'N') ∧ digits ≠ [] ∧ digits.all Char.isDigit then
      some (Component.clamp (-(Text.ofDigits 10 digits : Nat)))
    else none
  | _ => none

def signless? (a sign : Int) (cs : List Component) : Option (Progression × List Component) :=
  match dropBlanks cs with
  | number ⟨false, some b⟩ :: r => some (⟨a, sign * b⟩, r)
  | _ => none

def offset? (a : Int) (cs : List Component) : Option (Progression × List Component) :=
  match dropBlanks cs with
  | delim '+' :: r => signless? a 1 r
  | delim '-' :: r => signless? a (-1) r
  | number ⟨true, some b⟩ :: r => some (⟨a, b⟩, r)
  | _ => some (⟨a, 0⟩, cs)

/-- What follows the factor, given the letter with what is attached to it. -/
def tail? (a : Int) (unit : String) (r : List Component) : Option (Progression × List Component) :=
  match lower unit with
  | "n" => offset? a r
  | "n-" => signless? a (-1) r
  | _ => (dashed? unit).map fun b => (⟨a, b⟩, r)

def negated? (name : String) : Option String :=
  match name.toList with
  | '-' :: r => some (String.ofList r)
  | _ => none

def progression? (cs : List Component) : Option Progression := do
  let (p, r) ← start (dropBlanks cs)
  if (dropBlanks r).isEmpty then some p else none
where
  start : List Component → Option (Progression × List Component)
    | number ⟨_, some b⟩ :: r => some (⟨0, b⟩, r)
    | dimension ⟨_, some a⟩ unit :: r => tail? a unit r
    | ident name :: r =>
      match lower name with
      | "even" => some (⟨2, 0⟩, r)
      | "odd" => some (⟨2, 1⟩, r)
      | _ =>
        match negated? name with
        | some unit => tail? (-1) unit r
        | none => tail? 1 name r
    | delim '+' :: ident name :: r => tail? 1 name r
    | _ => none

/-! ## Compounds and their relations -/

def first : Progression := ⟨0, 1⟩

/-- The conditions without arguments. -/
def condition? (name : String) : Option (List Simple) :=
  match lower name with
  | "first-child" => some [.position false false first]
  | "last-child" => some [.position true false first]
  | "only-child" => some [.position false false first, .position true false first]
  | "first-of-type" => some [.position false true first]
  | "last-of-type" => some [.position true true first]
  | "only-of-type" => some [.position false true first, .position true true first]
  | "root" | "scope" => some [.never]
  | "empty" => some [.empty]
  | _ => none

/-- Blanks and an optional combinator. -/
def combinator? (cs : List Component) : Option (Combinator × List Component) :=
  match dropBlanks cs with
  | delim '>' :: r => some (.child, r)
  | delim '+' :: r => some (.next, r)
  | delim '~' :: r => some (.later, r)
  | [] => none
  | r =>
    match cs with
    | blank :: _ => some (.descendant, r)
    | _ => none

/-- How the alternatives of a list are read. -/
inductive Manner where
  | strict
  | forgiving
  /-- Each alternative starts from the element at hand. -/
  | relative
  deriving DecidableEq

mutual

/-- The conditions with arguments. -/
def call? (fuel : Nat) (inHas : Bool) (name : String) (content : List Component) : Option Simple :=
  match fuel with
  | 0 => none
  | fuel + 1 =>
    match lower name with
    | "nth-child" => (progression? content).map (.position false false ·)
    | "nth-last-child" => (progression? content).map (.position true false ·)
    | "nth-of-type" => (progression? content).map (.position false true ·)
    | "nth-last-of-type" => (progression? content).map (.position true true ·)
    | "is" | "where" => (list? fuel inHas .forgiving (commaParts content)).map .among
    | "not" => (list? fuel inHas .strict (commaParts content)).map .outside
    | "has" =>
      if inHas then none else (list? fuel true .relative (commaParts content)).map .has
    | _ => none

/-- The simple selectors of a compound after its type part. -/
def parts? (fuel : Nat) (inHas : Bool) (cs : List Component) :
    Option (List Simple × List Component) :=
  match fuel with
  | 0 => none
  | fuel + 1 =>
    let withRest (simple : List Simple) (r : List Component) :=
      (parts? fuel inHas r).map fun (l, r) => (simple ++ l, r)
    match cs with
    | Component.hash n true :: r => withRest [.id n] r
    | delim '.' :: ident n :: r => withRest [.cls n] r
    | delim '.' :: _ => none
    | block .square content :: r => attribute? content >>= fun s => withRest [s] r
    | colon :: ident n :: r => condition? n >>= fun l => withRest l r
    | colon :: function n content :: r => call? fuel inHas n content >>= fun s => withRest [s] r
    | colon :: _ => none
    | r => some ([], r)

/-- A compound, which is not empty. -/
def compound? (fuel : Nat) (inHas : Bool) (cs : List Component) :
    Option (List Simple × List Component) :=
  match fuel with
  | 0 => none
  | fuel + 1 => do
    let (type, r) ← type? (dropBlanks cs)
    let (l, r) ← parts? fuel inHas r
    let all := type.toList ++ l
    if all.isEmpty then none else some (all, r)

/-- The rest of a complex selector, after a combinator. -/
def after? (fuel : Nat) (inHas : Bool) (left : Complex) (c : Combinator) (cs : List Component) :
    Option Complex :=
  match fuel with
  | 0 => none
  | fuel + 1 => do
    let (l, r) ← compound? fuel inHas cs
    rest? fuel inHas (.related left c l) r

/-- What follows a compound: nothing, or a combinator and more. -/
def rest? (fuel : Nat) (inHas : Bool) (left : Complex) (cs : List Component) : Option Complex :=
  match fuel with
  | 0 => none
  | fuel + 1 =>
    match combinator? cs with
    | some (c, r) => after? fuel inHas left c r
    | none => if (dropBlanks cs).isEmpty then some left else none

def complex? (fuel : Nat) (inHas : Bool) (relative : Bool) (cs : List Component) : Option Complex :=
  match fuel with
  | 0 => none
  | fuel + 1 =>
    if relative then
      let (c, r) := (combinator? (blank :: cs)).getD (.descendant, [])
      after? fuel inHas (.compound [.anchor]) c r
    else do
      let (l, r) ← compound? fuel inHas cs
      rest? fuel inHas (.compound l) r

def list? (fuel : Nat) (inHas : Bool) (manner : Manner) (l : List (List Component)) :
    Option (List Complex) :=
  match fuel with
  | 0 => none
  | fuel + 1 =>
    match l with
    | [] => some []
    | cs :: r => do
      let c ←
        match complex? fuel inHas (manner = .relative) cs with
        | some c => some c
        | none =>
          if manner = .forgiving ∧ ¬ anyFaulty cs then some (.compound [.never]) else none
      let rest ← list? fuel inHas manner r
      some (c :: rest)

end

/-- The selector that a text denotes. -/
def parse? (s : String) : Option Selector :=
  (list? (8 * s.length + 8) false .strict (commaParts (Component.ofText s))).map Selector.mk

end Grouping.Selector
