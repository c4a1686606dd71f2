import Grouping.Markup.Builder.Table

/-! # Fragments of markup

Reads a text as the content of a body: `Dom.ofFragment`. Every text has a tree; what it says wrongly is
repaired.
-/

namespace Grouping.Markup.Build

/-! ## Modes of HTML -/

def startIn (m : Mode) (t : Tag) : Build Progress :=
  match m with
  | .body => done (startInBody t)
  | .text => return .done
  | .table => startInTable t
  | .tableText => flushTableText
  | .caption =>
    if partNames.contains t.name || ["td", "th", "tr"].contains t.name then closeCaption
    else done (startInBody t)
  | .columns =>
    match t.name with
    | "html" => done (startInBody t)
    | "col" => done (insertVoid t)
    | "template" => done (startInHead t)
    | _ => leaveColumns
  | .tableBody => startInSection t
  | .row => startInRow t
  | .cell => startInCell t
  | .select => startInSelect t
  | .selectInTable => startInTableSelect t
  | .template => startInTemplate t

def endIn (m : Mode) (name : String) : Build Progress :=
  match m with
  | .body => done (endInBody name)
  | .text => done do
    pop
    modify fun b => { b with mode := b.resume, reading := .markup }
  | .table => endInTable name
  | .tableText => flushTableText
  | .caption =>
    match name with
    | "caption" => done do
      when ((← get).hasNamed Scope.table "caption") do
        endCaption
        setMode .table
    | "table" => closeCaption
    | "body" | "col" | "colgroup" | "html" | "tbody" | "td" | "tfoot" | "th" | "thead" | "tr" =>
      return .done
    | _ => done (endInBody name)
  | .columns =>
    match name with
    | "colgroup" => done do
      when ((← get).currentIs "colgroup") do
        pop
        setMode .table
    | "col" => return .done
    | "template" => done closeTemplate
    | _ => leaveColumns
  | .tableBody => endInSection name
  | .row => endInRow name
  | .cell => endInCell name
  | .select => done (endInSelect name)
  | .selectInTable => endInTableSelect name
  | .template => done (when (name = "template") closeTemplate)

def textIn (m : Mode) (c : Char) : Build Progress :=
  match m with
  | .body | .caption | .cell | .template => done (textInBody c)
  | .text => done insertText
  | .table | .tableBody | .row => textInTable c
  | .tableText => done (when (c ≠ '\x00') (modify fun b => { b with tableText := c :: b.tableText }))
  | .columns => if Token.isSpace c then done insertText else leaveColumns
  | .select | .selectInTable => done (when (c ≠ '\x00') insertText)

/-! ## Other vocabularies -/

/-- The innermost element, unless it is of HTML or the root. -/
def embedded? (b : Builder) : Option Element :=
  match b.opened with
  | [] | [_] => none
  | i :: _ =>
    let e := b.elementAt i
    if e.vocabulary = .html then none else some e

def isIsland (e : Element) : Bool := e.isTextIsland || e.isHtmlIsland

/-- Is a start tag understood by the rules of the embedded vocabulary? -/
def takesStart (e : Element) (t : Tag) : Bool :=
  ! (e.isTextIsland && t.name ≠ "mglyph" && t.name ≠ "malignmark") && ! e.isHtmlIsland &&
    ! (e.vocabulary = .math && e.name = "annotation-xml" && t.name = "svg")

def startInEmbedded (e : Element) (m : Mode) (t : Tag) : Build Progress := do
  if Vocabulary.breaks t then
    popWhile fun e => e.vocabulary ≠ .html && ! isIsland e
    startIn m t
  else done (startEmbedded e.vocabulary (e.vocabulary.elementName t.name) t)

/-- Looks outward for an element that the end tag closes; `none` when an element of HTML comes first,
and the open elements as they are when there is neither. -/
def closeEmbedded? (b : Builder) (name : String) (first : Bool) : List Nat → Option (List Nat)
  | [] | [_] => some b.opened
  | i :: outer =>
    let e := b.elementAt i
    if ! first && e.vocabulary = .html then none
    else if e.name.map Char.toLower = name then some outer
    else closeEmbedded? b name false outer

def endInEmbedded (m : Mode) (name : String) : Build Progress := do
  let b ← get
  if name = "br" || name = "p" then
    popWhile fun e => e.vocabulary ≠ .html && ! isIsland e
    endIn m name
  else
    match closeEmbedded? b name true b.opened with
    | some opened => done (set { b with opened := opened })
    | none => endIn m name

/-! ## All tokens -/

/-- A token as the tree builder takes it: text comes in single characters. -/
inductive Piece where
  | char (c : Char)
  | startTag (t : Tag)
  | endTag (name : String)
  /-- A comment, or the end of the text. -/
  | other

def pieces : Token → List Piece
  | .text cs => cs.map .char
  | .startTag t => [.startTag t]
  | .endTag t => [.endTag t.name]
  | .comment => [.other]
  | .doctype => []

def understand (m : Mode) (p : Piece) : Build Progress := do
  let b ← get
  match embedded? b, p with
  | some e, .startTag t => if takesStart e t then startInEmbedded e m t else startIn m t
  | none, .startTag t => startIn m t
  | some _, .endTag name => endInEmbedded m name
  | none, .endTag name => endIn m name
  | some e, .char c => if isIsland e then textIn m c else done insertText
  | none, .char c => textIn m c
  | _, .other => if m = .tableText then flushTableText else return .done

/-- Takes a piece in one mode after another until it is used up. -/
def takeWithin (p : Piece) : Nat → Build Unit
  | 0 => pure ()
  | n + 1 => do
    match ← understand (← get).mode p with
    | .done => pure ()
    | .again m =>
      setMode m
      takeWithin p n

/-- Every change of the mode closes an element or enters a part of a table. -/
def take (p : Piece) : Build Unit := do
  let b ← get
  set { b with skipLineFeed := false }
  match b.skipLineFeed, p with
  | true, .char '\n' => pure ()
  | _, _ => takeWithin p (4 * (b.opened.length + 4))

/-- Reads the text to its end; every step takes at least one character. -/
def readAll : Nat → List Char → Build Unit
  | 0, _ | _, [] => take .other
  | n + 1, cs => do
    let b ← get
    let (token, rest) := Token.read (embedded? b).isSome b.reading cs
    (token.map pieces).getD [] |>.forM take
    readAll n rest

end Grouping.Markup.Build

namespace Grouping.Markup.Dom

/-- The tree of a text that stands in a body. -/
def ofFragment (text : String) : Dom :=
  let cs := Token.normalize text.toList
  ((Build.readAll cs.length cs).run Builder.start).2.dom

end Grouping.Markup.Dom
