import Grouping.Markup.Vocabulary

/-! # Document trees

Nodes are numbered in the order in which they are created. Node 0 is the root; a node without a parent
is not part of the tree. Of a text only its place is kept.
-/

namespace Grouping.Markup

inductive Content where
  | root
  | element (e : Element)
  | text
  deriving DecidableEq, Inhabited

structure Node where
  content : Content
  parent : Option Nat := none
  children : Array Nat := #[]
  deriving Inhabited

structure Dom where
  nodes : Array Node := #[{ content := .root }]
  deriving Inhabited

namespace Dom

def node (d : Dom) (i : Nat) : Node := d.nodes.getD i { content := .text }

def element? (d : Dom) (i : Nat) : Option Element :=
  match (d.node i).content with
  | .element e => some e
  | _ => none

def isText (d : Dom) (i : Nat) : Bool := (d.node i).content = .text

def size (d : Dom) : Nat := d.nodes.size

/-- A new node outside the tree. -/
def create (d : Dom) (c : Content) : Dom × Nat := (⟨d.nodes.push { content := c }⟩, d.nodes.size)

def modify (d : Dom) (i : Nat) (f : Node → Node) : Dom := ⟨d.nodes.modify i f⟩

def modifyElement (d : Dom) (i : Nat) (f : Element → Element) : Dom :=
  d.modify i fun n =>
    match n.content with
    | .element e => { n with content := .element (f e) }
    | _ => n

/-- Takes a node, with what is below it, out of the tree. -/
def detach (d : Dom) (i : Nat) : Dom :=
  match (d.node i).parent with
  | none => d
  | some p =>
    (d.modify p fun n => { n with children := n.children.filter (· ≠ i) }).modify i fun n =>
      { n with parent := none }

/-- Puts a node among the children of another one, where `f` says. -/
def attach (d : Dom) (parent i : Nat) (f : Array Nat → Array Nat) : Dom :=
  ((d.detach i).modify parent fun n => { n with children := f n.children }).modify i fun n =>
    { n with parent := some parent }

def append (d : Dom) (parent i : Nat) : Dom := d.attach parent i fun c => c.push i

def insertBefore (d : Dom) (sibling i : Nat) : Dom :=
  match (d.node sibling).parent with
  | none => d
  | some p =>
    d.attach p i fun c =>
      (c.toList.takeWhile (· ≠ sibling)).toArray.push i ++
        (c.toList.dropWhile (· ≠ sibling)).toArray

/-- Adds text at the end of a node; it joins a text that is there. -/
def appendText (d : Dom) (parent : Nat) : Dom :=
  if (d.node parent).children.back?.any d.isText then d
  else
    let (d, i) := d.create .text
    d.append parent i

def insertTextBefore (d : Dom) (sibling : Nat) : Dom :=
  match (d.node sibling).parent with
  | none => d
  | some p =>
    if (((d.node p).children.toList.takeWhile (· ≠ sibling)).getLast?).any d.isText then d
    else
      let (d, i) := d.create .text
      d.insertBefore sibling i

/-- Moves all children of a node to the end of another one. -/
def moveChildren (d : Dom) (source target : Nat) : Dom :=
  (d.node source).children.foldl (fun d i => d.append target i) d

/-- The element a node is a child of. -/
def parentElement? (d : Dom) (i : Nat) : Option Nat :=
  (d.node i).parent.filter fun p => (d.element? p).isSome

def childElements (d : Dom) (i : Nat) : List Nat :=
  (d.node i).children.toList.filter fun c => (d.element? c).isSome

/-- The element and its sibling elements, in order. -/
def family (d : Dom) (i : Nat) : List Nat :=
  match (d.node i).parent with
  | none => [i]
  | some p => d.childElements p

/-- The elements of the tree in the order in which they were created. -/
def elements (d : Dom) : List (Nat × Element) :=
  (List.range d.size).filterMap fun i =>
    if (d.node i).parent.isSome then (d.element? i).map (i, ·) else none

end Dom

end Grouping.Markup
