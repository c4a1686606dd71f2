import Grouping.Markup.Dom
import Grouping.Text.Blank

/-! # Selectors

A selector describes elements of a document tree by their names and attributes and by their relation to
other elements. A complex selector is read from its last part: `left` describes an element that stands
in the given relation to the one that the last part describes.
-/

namespace Grouping

open Markup

namespace Selector

inductive Combinator where
  | descendant
  | child
  | next
  | later
  deriving DecidableEq, Inhabited

/-- When two texts count as equal. -/
inductive Casing where
  | sensitive
  | insensitive
  /-- ASCII letters of either case are equal in HTML elements only. -/
  | insensitiveInHtml
  deriving DecidableEq, Inhabited

inductive Comparison where
  | equals
  | includes
  | dash
  | startsWith
  | endsWith
  | contains
  deriving DecidableEq, Inhabited

structure ValueTest where
  comparison : Comparison
  operand : String
  casing : Casing
  deriving DecidableEq, Inhabited

/-- The positions `a * n + b` for natural numbers `n`, counted from one. -/
structure Progression where
  a : Int
  b : Int
  deriving DecidableEq, Inhabited

namespace Progression

def holds (p : Progression) (position : Nat) : Bool :=
  let d := (position : Int) - p.b
  if p.a = 0 then d = 0 else d % p.a = 0 && 0 ≤ d / p.a

end Progression

mutual

inductive Simple where
  /-- Describes no element. -/
  | never
  | any
  | type (name : String)
  | id (name : String)
  | cls (name : String)
  | attribute (anyNamespace : Bool) (name : String) (test : Option ValueTest)
  | empty
  | position (fromEnd ofType : Bool) (p : Progression)
  | among (l : List Complex)
  | outside (l : List Complex)
  /-- Some element described by the selectors, in which `anchor` is the element at hand. -/
  | has (l : List Complex)
  | anchor
  deriving Inhabited

inductive Complex where
  | compound (parts : List Simple)
  | related (left : Complex) (c : Combinator) (parts : List Simple)
  deriving Inhabited

end

/-! ## Attributes and positions -/

def lower (s : String) : String := s.map Char.toLower

def isSpace (c : Char) : Bool := Token.isSpace c

namespace Comparison

/-- An empty operand is neither begin nor end nor part of a value. -/
def holds (c : Comparison) (value operand : List Char) : Bool :=
  match c with
  | equals => value = operand
  | includes => operand ≠ [] && (Text.piecesBy isSpace value).contains operand
  | dash => value = operand || (operand ++ ['-']).isPrefixOf value
  | startsWith => operand ≠ [] && operand.isPrefixOf value
  | endsWith => operand ≠ [] && operand.isSuffixOf value
  | contains => operand ≠ [] && (tails value).any operand.isPrefixOf
where
  tails : List Char → List (List Char)
    | [] => [[]]
    | c :: r => (c :: r) :: tails r

end Comparison

def ValueTest.holds (t : ValueTest) (e : Element) (value : String) : Bool :=
  let fold :=
    t.casing = .insensitive || (t.casing = .insensitiveInHtml && e.vocabulary = .html)
  let chars (s : String) := if fold then (lower s).toList else s.toList
  t.comparison.holds (chars value) (chars t.operand)

/-- Names in a selector are lower-cased for HTML elements. -/
def nameFor (e : Element) (name : String) : String :=
  if e.vocabulary = .html then lower name else name

def hasAttribute (e : Element) (anyNamespace : Bool) (name : String) (test : Option ValueTest) :
    Bool :=
  (if anyNamespace then e.attributes ++ e.linked else e.attributes).any fun a =>
    a.name = nameFor e name && test.all fun t => t.holds e a.value

/-- The classes of an element are the words of its attribute, between blanks of any kind. -/
def hasClass (e : Element) (name : String) : Bool :=
  (e.value? "class").any fun v => (Text.piecesBy Text.isBlank v.toList).contains name.toList

def sameType (d : Dom) (i j : Nat) : Bool :=
  match d.element? i, d.element? j with
  | some e, some f => e.vocabulary = f.vocabulary && e.name = f.name
  | _, _ => false

/-- The position of an element among its siblings, from one. -/
def positionOf (d : Dom) (fromEnd ofType : Bool) (i : Nat) : Nat :=
  let family := (d.family i).filter fun j => ! ofType || sameType d i j
  let before := (if fromEnd then family.reverse else family).takeWhile (· ≠ i)
  before.length + 1

/-! ## Relatives -/

/-- The elements around an element, the nearest first; `fuel` bounds their number. -/
def ancestorsWithin (d : Dom) : Nat → Nat → List Nat
  | 0, _ => []
  | fuel + 1, i =>
    match d.parentElement? i with
    | none => []
    | some p => p :: ancestorsWithin d fuel p

def earlier (d : Dom) (i : Nat) : List Nat := ((d.family i).takeWhile (· ≠ i)).reverse

/-- The elements to which an element stands in the relation. -/
def relatives (d : Dom) (c : Combinator) (i : Nat) : List Nat :=
  match c with
  | .descendant => ancestorsWithin d d.size i
  | .child => (d.parentElement? i).toList
  | .next => (earlier d i).take 1
  | .later => earlier d i

/-! ## What a selector describes -/

mutual

def Simple.holds (d : Dom) (anchor : Option Nat) : Simple → Nat → Bool
  | .never, _ => false
  | .any, _ => true
  | .type name, i => (d.element? i).any fun e => e.name = nameFor e name
  | .id name, i => (d.element? i).any fun e => e.value? "id" = some name
  | .cls name, i => (d.element? i).any fun e => hasClass e name
  | .attribute anyNamespace name test, i =>
    (d.element? i).any fun e => hasAttribute e anyNamespace name test
  | .empty, i => (d.node i).children.isEmpty
  | .position fromEnd ofType p, i => p.holds (positionOf d fromEnd ofType i)
  | .among l, i => anyHolds d anchor l i
  | .outside l, i => ! anyHolds d anchor l i
  | .has l, i => (d.elements.map Prod.fst).any fun j => anyHolds d (some i) l j
  | .anchor, i => anchor = some i

def allHold (d : Dom) (anchor : Option Nat) : List Simple → Nat → Bool
  | [], _ => true
  | s :: r, i => s.holds d anchor i && allHold d anchor r i

def Complex.holds (d : Dom) (anchor : Option Nat) : Complex → Nat → Bool
  | .compound parts, i => allHold d anchor parts i
  | .related left c parts, i =>
    allHold d anchor parts i && (relatives d c i).any fun j => left.holds d anchor j

def anyHolds (d : Dom) (anchor : Option Nat) : List Complex → Nat → Bool
  | [], _ => false
  | c :: r, i => c.holds d anchor i || anyHolds d anchor r i

end

end Selector

/-- A selector is a list of alternatives. -/
structure Selector where
  alternatives : List Selector.Complex
  deriving Inhabited

namespace Selector

/-- The elements of the tree that a selector describes, in the order of their creation. -/
def select (s : Selector) (d : Dom) : List Element :=
  (d.elements.filter fun p => anyHolds d none s.alternatives p.1).map Prod.snd

end Selector

end Grouping
