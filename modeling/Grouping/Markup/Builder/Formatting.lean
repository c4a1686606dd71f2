import Grouping.Markup.Builder

/-! # Formatting elements

A formatting element goes on after an element that ends before it. When its end tag comes while other
elements are open inside it, the tree is rearranged so that what is left open is no longer inside it.
-/

namespace Grouping.Markup.Build

/-- Is the entry the border of a context or still open? -/
def isSettled (b : Builder) : Formatting → Bool
  | .border => true
  | .element i _ => b.opened.contains i

/-- The entries of the innermost context, the latest first. -/
def activeEntries (b : Builder) : List Formatting :=
  b.formatting.takeWhile (· ≠ .border)

def addBorder : Build Unit := modify fun b => { b with formatting := .border :: b.formatting }

/-- Leaves the innermost context. -/
def clearToBorder : Build Unit :=
  modify fun b => { b with formatting := (b.formatting.dropWhile (· ≠ .border)).drop 1 }

def removeFormatting (i : Nat) : Build Unit :=
  modify fun b => { b with formatting := b.formatting.filter fun f => ! f.isNode i }

def replaceFormatting (i : Nat) (f : Formatting) : Build Unit :=
  modify fun b => { b with formatting := b.formatting.map fun g => if g.isNode i then f else g }

/-- Opens the elements of the entries again, the oldest first. -/
def reopen : List Formatting → Build Unit
  | [] => pure ()
  | .border :: r => reopen r
  | .element i t :: r => do
    let j ← openElement t
    replaceFormatting i (.element j t)
    reopen r

/-- Opens the formatting elements again that were closed by the end of an element around them. -/
def reconstruct : Build Unit := do
  let b ← get
  reopen (b.formatting.takeWhile fun f => ! isSettled b f).reverse

def sameAttributes (a b : List Attribute) : Bool :=
  a.length = b.length && a.all fun x => b.contains x

def sameTag (s t : Tag) : Bool := s.name = t.name && sameAttributes s.attributes t.attributes

/-- Opens a formatting element. Of equal ones at most three are kept, the latest. -/
def openFormatting (t : Tag) : Build Unit := do
  let equal := (activeEntries (← get)).filter fun f =>
    match f with
    | .border => false
    | .element _ s => sameTag s t
  when (3 ≤ equal.length)
    (match equal.getLast? with
      | some (.element i _) => removeFormatting i
      | _ => pure ())
  let i ← openElement t
  modify fun b => { b with formatting := .element i t :: b.formatting }

/-- An end tag without rules of its own closes an open element of its name, unless a special element
is open inside that. -/
def closeGeneral (name : String) : Build Unit := do
  let b ← get
  match reach b b.opened with
  | none => pure ()
  | some outer =>
    closeImpliedBut name
    modify fun b =>
      { b with opened := b.opened.drop (b.opened.length - outer) }
where
  /-- How many elements are open around the one that is closed. -/
  reach (b : Builder) : List Nat → Option Nat
    | [] => none
    | i :: r =>
      let e := b.elementAt i
      if e.isHtml name then some r.length
      else if e.isHtmlIn Names.special then none
      else reach b r

/-! ## Closing a formatting element -/

/-- Where the entry of the element that goes on is put. -/
inductive Bookmark where
  | instead
  /-- After the entry of a node, that is, as a later one. -/
  | after (node : Nat)

/-- Puts an entry right after (as later than) the entry of a node. -/
def insertAfter (node : Nat) (f : Formatting) : List Formatting → List Formatting
  | [] => []
  | g :: r => if g.isNode node then f :: g :: r else g :: insertAfter node f r

/-- Walks outward through the elements between the block and the formatting element. The first three
that are formatting elements are replaced by new ones, each taking in the chain of nodes so far; the
others are closed. -/
def rebuildChain (block : Nat) :
    Nat → List Nat → Nat → Bookmark → Build (Nat × Bookmark)
  | _, [], last, mark => return (last, mark)
  | count, i :: outer, last, mark => do
    let b ← get
    match b.formatting.find? fun f => f.isNode i with
    | some (.element _ t) =>
      if 3 < count then
        removeFormatting i
        removeOpened i
        rebuildChain block (count + 1) outer last mark
      else
        let j ← create (Vocabulary.element .html t.name t.attributes)
        modify fun b => { b with opened := b.opened.map fun k => if k = i then j else k }
        replaceFormatting i (.element j t)
        modify fun b => { b with dom := b.dom.append j last }
        rebuildChain block (count + 1) outer j (if last = block then .after j else mark)
    | _ =>
      removeOpened i
      rebuildChain block (count + 1) outer last mark

/-- Rearranges the tree when the block is open inside the formatting element `i` of tag `t`. -/
def moveOut (i : Nat) (t : Tag) (block : Nat) : Build Unit := do
  let b ← get
  let outward := (b.opened.dropWhile (· ≠ block)).drop 1
  let between := outward.takeWhile (· ≠ i)
  let ancestor := ((outward.dropWhile (· ≠ i)).drop 1).headD 0
  let (last, mark) ← rebuildChain block 1 between block .instead
  modify fun b => { b with dom := b.dom.detach last }
  let b ← get
  insertAt (placeIn b ancestor) last
  let j ← create (Vocabulary.element .html t.name t.attributes)
  modify fun b => { b with dom := (b.dom.moveChildren block j).append block j }
  let entry := Formatting.element j t
  match mark with
  | .instead => replaceFormatting i entry
  | .after k =>
    modify fun b => { b with formatting := insertAfter k entry b.formatting }
    removeFormatting i
  removeOpened i
  modify fun b =>
    { b with
      opened :=
        b.opened.takeWhile (· ≠ block) ++ j :: b.opened.dropWhile (· ≠ block) }

/-- The outermost special element that is open inside the node `i`. -/
def blockInside? (b : Builder) (i : Nat) : Option Nat :=
  (b.opened.takeWhile (· ≠ i)).reverse.find? fun j => (b.elementAt j).isHtmlIn Names.special

/-- Closes the latest formatting element of a name; at most `n` times in turn. -/
def closeFormattingTimes (name : String) : Nat → Build Unit
  | 0 => pure ()
  | n + 1 => do
    let b ← get
    let entry := (activeEntries b).find? fun f =>
      match f with
      | .border => false
      | .element _ t => t.name = name
    match entry with
    | some (.element i t) =>
      if ! b.opened.contains i then removeFormatting i
      else if ! b.hasInScope Scope.general (· = i) then pure ()
      else
        match blockInside? b i with
        | none =>
          modify fun b => { b with opened := (b.opened.dropWhile (· ≠ i)).drop 1 }
          removeFormatting i
        | some block =>
          moveOut i t block
          closeFormattingTimes name n
    | _ => closeGeneral name

def closeFormatting (name : String) : Build Unit := do
  let b ← get
  if b.currentIs name && ! b.formatting.any fun f => f.isNode b.current then pop
  else closeFormattingTimes name 8

/-- A link may not stand in a link: closes one that is open in this context. -/
def closeOpenLink : Build Unit := do
  let b ← get
  let entry := (activeEntries b).find? fun f =>
    match f with
    | .border => false
    | .element i _ => (b.elementAt i).isHtml "a"
  match entry with
  | some (.element i _) =>
    closeFormatting "a"
    removeFormatting i
    removeOpened i
  | _ => pure ()

end Grouping.Markup.Build
