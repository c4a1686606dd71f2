import Grouping.Markup.Dom

/-! # Building a tree

What is known while a fragment is read: the tree so far, the elements that are open, the formatting
elements that are to be opened again where their content goes on, and the mode, which says how the next
token is understood.
-/

namespace Grouping.Markup

inductive Mode where
  | body
  | text
  | table
  | tableText
  | caption
  | columns
  | tableBody
  | row
  | cell
  | select
  | selectInTable
  | template
  deriving DecidableEq, Inhabited

/-- A formatting element with its tag, or the border of a context that older ones do not enter. -/
inductive Formatting where
  | border
  | element (node : Nat) (t : Tag)
  deriving DecidableEq, Inhabited

namespace Formatting

def isNode (node : Nat) : Formatting → Bool
  | border => false
  | element n _ => n = node

end Formatting

structure Builder where
  dom : Dom
  mode : Mode := .body
  /-- The mode to go on with after a text. -/
  resume : Mode := .body
  templateModes : List Mode := []
  /-- The open elements, the innermost first. -/
  opened : List Nat
  /-- The formatting elements, the latest first. -/
  formatting : List Formatting := []
  form : Option Nat := none
  /-- Whether content that may not stand in a table goes before it. -/
  fostering : Bool := false
  /-- The pieces of a text in a table, the latest first. -/
  tableText : List Char := []
  /-- Whether a line feed that comes next is dropped. -/
  skipLineFeed : Bool := false
  reading : Reading := .markup
  deriving Inhabited

/-- A step in building the tree. -/
abbrev Build := StateM Builder

/-- A token is used up, or is to be understood again in another mode. -/
inductive Progress where
  | done
  | again (m : Mode)
  deriving DecidableEq, Inhabited

namespace Builder

/-- The empty fragment: a root element in the tree, which is open. -/
def start : Builder :=
  let (d, i) := Dom.create {} (.element ⟨.html, "html", [], []⟩)
  { dom := d.append 0 i, opened := [i] }

/-! ## Open elements -/

def elementAt (b : Builder) (i : Nat) : Element := (b.dom.element? i).getD default

def current (b : Builder) : Nat := b.opened.headD 0

def currentElement (b : Builder) : Element := b.elementAt b.current

def currentIs (b : Builder) (name : String) : Bool := b.currentElement.isHtml name

def currentIn (b : Builder) (names : List String) : Bool := b.currentElement.isHtmlIn names

/-- Is an open element of this name? -/
def hasOpen (b : Builder) (name : String) : Bool :=
  b.opened.any fun i => (b.elementAt i).isHtml name

/-- Looks outward for an open element, up to the first one that closes the scope. -/
def hasInScope (b : Builder) (border : Element → Bool) (p : Nat → Bool) : Bool :=
  go b.opened
where
  go : List Nat → Bool
    | [] => false
    | i :: r => p i || (! border (b.elementAt i) && go r)

def hasNamed (b : Builder) (border : Element → Bool) (name : String) : Bool :=
  b.hasInScope border fun i => (b.elementAt i).isHtml name

def hasAmong (b : Builder) (border : Element → Bool) (names : List String) : Bool :=
  b.hasInScope border fun i => (b.elementAt i).isHtmlIn names

end Builder

namespace Scope

def general (e : Element) : Bool :=
  e.isHtmlIn
    ["applet", "caption", "html", "table", "td", "th", "marquee", "object", "template"] ||
    e.isTextIsland || e.isHtmlIsland

def list (e : Element) : Bool := general e || e.isHtmlIn ["ol", "ul"]

def button (e : Element) : Bool := general e || e.isHtml "button"

def table (e : Element) : Bool := e.isHtmlIn ["html", "table", "template"]

def select (e : Element) : Bool := ! e.isHtmlIn ["optgroup", "option"]

end Scope

namespace Names

def headings : List String := ["h1", "h2", "h3", "h4", "h5", "h6"]

/-- Elements that end by themselves when something around them ends. -/
def implied : List String :=
  ["dd", "dt", "li", "option", "optgroup", "p", "rb", "rp", "rt", "rtc"]

def impliedInTemplate : List String :=
  implied ++ ["caption", "colgroup", "tbody", "td", "tfoot", "th", "thead", "tr"]

/-- Elements that a general end tag does not reach over. -/
def special : List String :=
  ["address", "applet", "area", "article", "aside", "base", "basefont", "bgsound", "blockquote",
    "body", "br", "button", "caption", "center", "col", "colgroup", "dd", "details", "dir", "div",
    "dl", "dt", "embed", "fieldset", "figcaption", "figure", "footer", "form", "frame", "frameset",
    "h1", "h2", "h3", "h4", "h5", "h6", "head", "header", "hgroup", "hr", "html", "iframe", "img",
    "input", "isindex", "li", "link", "listing", "main", "marquee", "menu", "meta", "nav", "noembed",
    "noframes", "noscript", "object", "ol", "p", "param", "plaintext", "pre", "script", "section",
    "select", "source", "style", "summary", "table", "tbody", "td", "template", "textarea", "tfoot",
    "th", "thead", "title", "tr", "track", "ul", "wbr", "xmp"]

/-- Elements in which there is no place for text and other content. -/
def tableParts : List String := ["table", "tbody", "tfoot", "thead", "tr"]

def cells : List String := ["td", "th"]

def tableSections : List String := ["tbody", "tfoot", "thead"]

end Names

namespace Build

def when (c : Bool) (b : Build Unit) : Build Unit := if c then b else pure ()

def pop : Build Unit := modify fun b => { b with opened := b.opened.tail }

def push (i : Nat) : Build Unit := modify fun b => { b with opened := i :: b.opened }

def setMode (m : Mode) : Build Unit := modify fun b => { b with mode := m }

/-- Closes elements as long as the innermost one is of the kind. -/
def popWhile (p : Element → Bool) : Build Unit :=
  modify fun b => { b with opened := b.opened.dropWhile fun i => p (b.elementAt i) }

/-- Closes elements up to and with the first of the kind. -/
def popThrough (p : Element → Bool) : Build Unit := do
  popWhile fun e => ! p e
  pop

def popThroughNamed (name : String) : Build Unit := popThrough fun e => e.isHtml name

def closeImplied : Build Unit := popWhile fun e => e.isHtmlIn Names.implied

def closeImpliedBut (name : String) : Build Unit :=
  popWhile fun e => e.isHtmlIn Names.implied && e.name ≠ name

/-- Closes elements down to a context element of a table. -/
def popToContext (names : List String) : Build Unit := popWhile fun e => ! e.isHtmlIn names

def closeParagraph : Build Unit := do
  closeImpliedBut "p"
  popThroughNamed "p"

def closeOpenParagraph : Build Unit := do
  when ((← get).hasNamed Scope.button "p") closeParagraph

def removeOpened (i : Nat) : Build Unit :=
  modify fun b => { b with opened := b.opened.filter (· ≠ i) }

/-! ## Insertion -/

/-- Where a new node goes. -/
inductive Place where
  | lastIn (parent : Nat)
  /-- Before a table, or at the end of the element around it when the table is not in the tree. -/
  | beforeTable (table around : Nat)

def fosterPlace (b : Builder) : List Nat → Place
  | [] => .lastIn 0
  | [i] => .lastIn i
  | i :: around :: r =>
    let e := b.elementAt i
    if e.isHtml "template" then .lastIn i
    else if e.isHtml "table" then .beforeTable i around
    else fosterPlace b (around :: r)

def placeIn (b : Builder) (target : Nat) : Place :=
  if b.fostering && (b.elementAt target).isHtmlIn Names.tableParts then fosterPlace b b.opened
  else .lastIn target

def insertAt (p : Place) (i : Nat) : Build Unit :=
  modify fun b =>
    { b with
      dom :=
        match p with
        | .lastIn parent => b.dom.append parent i
        | .beforeTable table around =>
          if (b.dom.node table).parent.isSome then b.dom.insertBefore table i
          else b.dom.append around i }

def insertText : Build Unit :=
  modify fun b =>
    { b with
      dom :=
        match placeIn b b.current with
        | .lastIn parent => b.dom.appendText parent
        | .beforeTable table around =>
          if (b.dom.node table).parent.isSome then b.dom.insertTextBefore table
          else b.dom.appendText around }

def create (e : Element) : Build Nat :=
  modifyGet fun b =>
    let (d, i) := b.dom.create (.element e)
    (i, { b with dom := d })

def insert (e : Element) : Build Nat := do
  let i ← create e
  let b ← get
  insertAt (placeIn b b.current) i
  return i

/-- Inserts and opens an element of HTML. -/
def openElement (t : Tag) : Build Nat := do
  let i ← insert (Vocabulary.element .html t.name t.attributes)
  push i
  return i

def insertTag (t : Tag) : Build Unit := discard (openElement t)

/-- Inserts an element that has no content. -/
def insertVoid (t : Tag) : Build Unit :=
  discard (insert (Vocabulary.element .html t.name t.attributes))

def insertNamed (name : String) : Build Unit := insertTag { name := name }

/-- Inserts an element whose content is read as text. -/
def insertRaw (t : Tag) (reading : Reading) : Build Unit := do
  insertTag t
  modify fun b => { b with resume := b.mode, mode := .text, reading := reading }

/-! ## Modes -/

/-- The mode for the elements that are open now. -/
def modeFor (b : Builder) : List Nat → Mode
  | [] | [_] => .body
  | i :: outer =>
    let e := b.elementAt i
    if e.vocabulary ≠ .html then modeFor b outer
    else
      match e.name with
      | "select" => selectMode outer
      | "td" | "th" => .cell
      | "tr" => .row
      | "tbody" | "thead" | "tfoot" => .tableBody
      | "caption" => .caption
      | "colgroup" => .columns
      | "table" => .table
      | "template" => b.templateModes.headD .body
      | _ => modeFor b outer
where
  selectMode : List Nat → Mode
    | [] => .select
    | i :: r =>
      let e := b.elementAt i
      if e.isHtml "template" then .select
      else if e.isHtml "table" then .selectInTable
      else selectMode r

def resetMode : Build Unit := modify fun b => { b with mode := modeFor b b.opened }

/-- Takes a token again, in the mode for the elements that are open now. -/
def againReset : Build Progress := do
  let b ← get
  return .again (modeFor b b.opened)

end Build

end Grouping.Markup
