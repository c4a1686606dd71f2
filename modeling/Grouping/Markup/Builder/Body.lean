import Grouping.Markup.Builder.Formatting

/-! # Content of a body

How tokens are understood where text and most elements may stand, and the few elements of a document
head, which are understood in the same way wherever they occur.
-/

namespace Grouping.Markup.Build

/-! ## Elements of a head -/

def headNames : List String :=
  ["base", "basefont", "bgsound", "link", "meta", "noframes", "script", "style", "template", "title"]

def openTemplate (t : Tag) : Build Unit := do
  insertTag t
  addBorder
  modify fun b => { b with mode := .template, templateModes := .template :: b.templateModes }

def closeTemplate : Build Unit := do
  if (← get).hasOpen "template" then
    popWhile fun e => e.isHtmlIn Names.impliedInTemplate
    popThroughNamed "template"
    clearToBorder
    modify fun b => { b with templateModes := b.templateModes.tail }
    resetMode

def startInHead (t : Tag) : Build Unit :=
  match t.name with
  | "title" => insertRaw t (.escapable t.name)
  | "noframes" | "style" => insertRaw t (.raw t.name)
  | "script" => insertRaw t .script
  | "template" => openTemplate t
  | _ => insertVoid t

/-! ## Start tags -/

def blockNames : List String :=
  ["address", "article", "aside", "blockquote", "center", "details", "dialog", "dir", "div", "dl",
    "fieldset", "figcaption", "figure", "footer", "header", "hgroup", "main", "menu", "nav", "ol", "p",
    "search", "section", "summary", "ul"]

def formattingNames : List String :=
  ["b", "big", "code", "em", "font", "i", "s", "small", "strike", "strong", "tt", "u"]

/-- Elements without content before which formatting goes on. -/
def voidNames : List String := ["area", "br", "embed", "img", "keygen", "wbr", "input"]

/-- Tags that have a meaning in other contexts only. -/
def misplacedNames : List String :=
  ["body", "caption", "col", "colgroup", "frame", "frameset", "head", "tbody", "td", "tfoot", "th",
    "thead", "tr"]

/-- Closes the open list item (or description) that a new one of the given names ends. -/
def closeItem (names : List String) : Build Unit := do
  let b ← get
  match reach b b.opened with
  | none => pure ()
  | some name =>
    closeImpliedBut name
    popThroughNamed name
where
  reach (b : Builder) : List Nat → Option String
    | [] => none
    | i :: r =>
      let e := b.elementAt i
      if e.isHtmlIn names then some e.name
      else if e.isHtmlIn (Names.special.filter fun n => ! ["address", "div", "p"].contains n) then none
      else reach b r

def startForm (t : Tag) : Build Unit := do
  let b ← get
  if b.form.isSome && ! b.hasOpen "template" then pure ()
  else
    closeOpenParagraph
    let i ← openElement t
    when (! (← get).hasOpen "template") (modify fun b => { b with form := some i })

def startButton (t : Tag) : Build Unit := do
  when ((← get).hasNamed Scope.general "button") do
    closeImplied
    popThroughNamed "button"
  reconstruct
  insertTag t

def startSelect (t : Tag) : Build Unit := do
  reconstruct
  insertTag t
  modify fun b =>
    { b with
      mode :=
        if [Mode.table, .caption, .tableBody, .row, .cell].contains b.mode then .selectInTable
        else .select }

/-- Opens an element of another vocabulary. -/
def startEmbedded (v : Vocabulary) (name : String) (t : Tag) : Build Unit := do
  let i ← insert (Vocabulary.element v name t.attributes)
  when (! t.selfClosing) (push i)

def startInBody (t : Tag) : Build Unit := do
  if headNames.contains t.name then startInHead t
  else if blockNames.contains t.name then
    closeOpenParagraph
    insertTag t
  else if Names.headings.contains t.name then
    closeOpenParagraph
    when ((← get).currentIn Names.headings) pop
    insertTag t
  else if formattingNames.contains t.name then
    reconstruct
    openFormatting t
  else if voidNames.contains t.name then
    reconstruct
    insertVoid t
  else if misplacedNames.contains t.name then pure ()
  else
    match t.name with
    | "html" =>
      let b ← get
      when (! b.hasOpen "template")
        (set { b with
          dom := b.dom.modifyElement (b.opened.getLastD 0) fun e => e.addMissing t.attributes })
    | "pre" | "listing" =>
      closeOpenParagraph
      insertTag t
      modify fun b => { b with skipLineFeed := true }
    | "form" => startForm t
    | "li" =>
      closeItem ["li"]
      closeOpenParagraph
      insertTag t
    | "dd" | "dt" =>
      closeItem ["dd", "dt"]
      closeOpenParagraph
      insertTag t
    | "plaintext" =>
      closeOpenParagraph
      insertTag t
      modify fun b => { b with reading := .plain }
    | "button" => startButton t
    | "a" =>
      closeOpenLink
      reconstruct
      openFormatting t
    | "nobr" =>
      reconstruct
      when ((← get).hasNamed Scope.general "nobr") do
        closeFormatting "nobr"
        reconstruct
      openFormatting t
    | "applet" | "marquee" | "object" =>
      reconstruct
      insertTag t
      addBorder
    | "table" =>
      closeOpenParagraph
      insertTag t
      setMode .table
    | "param" | "source" | "track" => insertVoid t
    | "hr" =>
      closeOpenParagraph
      insertVoid t
    | "image" =>
      reconstruct
      insertVoid { t with name := "img" }
    | "textarea" =>
      modify fun b => { b with skipLineFeed := true }
      insertRaw t (.escapable t.name)
    | "xmp" =>
      closeOpenParagraph
      reconstruct
      insertRaw t (.raw t.name)
    | "iframe" | "noembed" | "noscript" => insertRaw t (.raw t.name)
    | "select" => startSelect t
    | "optgroup" | "option" =>
      when ((← get).currentIs "option") pop
      reconstruct
      insertTag t
    | "rb" | "rtc" =>
      when ((← get).hasNamed Scope.general "ruby") closeImplied
      insertTag t
    | "rp" | "rt" =>
      when ((← get).hasNamed Scope.general "ruby") (closeImpliedBut "rtc")
      insertTag t
    | "math" => startEmbedded .math t.name t
    | "svg" => startEmbedded .svg t.name t
    | _ =>
      reconstruct
      insertTag t

/-! ## End tags -/

/-- Elements whose end tag closes everything open inside them. -/
def closableNames : List String :=
  ["address", "article", "aside", "blockquote", "button", "center", "details", "dialog", "dir", "div",
    "dl", "fieldset", "figcaption", "figure", "footer", "header", "hgroup", "listing", "main", "menu",
    "nav", "ol", "pre", "search", "section", "summary", "ul"]

def closeNamed (border : Element → Bool) (name : String) : Build Unit := do
  when ((← get).hasNamed border name) do
    closeImplied
    popThroughNamed name

def closeItemNamed (border : Element → Bool) (name : String) : Build Unit := do
  when ((← get).hasNamed border name) do
    closeImpliedBut name
    popThroughNamed name

def closeForm : Build Unit := do
  let b ← get
  if b.hasOpen "template" then closeNamed Scope.general "form"
  else
    set { b with form := none }
    match b.form with
    | none => pure ()
    | some i =>
      when (b.hasInScope Scope.general (· = i)) do
        closeImplied
        removeOpened i

def endInBody (name : String) : Build Unit := do
  if closableNames.contains name then closeNamed Scope.general name
  else if Names.headings.contains name then
    when ((← get).hasAmong Scope.general Names.headings) do
      closeImplied
      popThrough fun e => e.isHtmlIn Names.headings
  else if formattingNames.contains name then closeFormatting name
  else
    match name with
    | "body" | "html" => pure ()
    | "template" => closeTemplate
    | "form" => closeForm
    | "p" =>
      when (! (← get).hasNamed Scope.button "p") (insertNamed "p")
      closeParagraph
    | "li" => closeItemNamed Scope.list name
    | "dd" | "dt" => closeItemNamed Scope.general name
    | "a" | "nobr" => closeFormatting name
    | "applet" | "marquee" | "object" =>
      when ((← get).hasNamed Scope.general name) do
        closeImplied
        popThroughNamed name
        clearToBorder
    | "br" =>
      reconstruct
      insertVoid { name := name }
    | _ => closeGeneral name

def textInBody (c : Char) : Build Unit := do
  when (c ≠ '\x00') do
    reconstruct
    insertText

end Grouping.Markup.Build
