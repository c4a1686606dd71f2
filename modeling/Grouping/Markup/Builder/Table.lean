import Grouping.Markup.Builder.Body

/-! # Content of tables, selections and templates

How tokens are understood in the parts of a table, in a selection, and in a template before its first
element has shown what kind of content it holds. Content that may not stand in a table goes before it.
-/

namespace Grouping.Markup.Build

def sectionContext : List String := ["tbody", "tfoot", "thead", "template", "html"]

def rowContext : List String := ["tr", "template", "html"]

def tableContext : List String := ["html", "table", "template"]

/-- Tags of parts that may end the part they are found in. -/
def partNames : List String := ["caption", "col", "colgroup", "tbody", "tfoot", "thead"]

def fostered (p : Build Unit) : Build Unit := do
  modify fun b => { b with fostering := true }
  p
  modify fun b => { b with fostering := false }

def done (p : Build Unit) : Build Progress := do
  p
  return .done

/-! ## Tables -/

def isHidden (t : Tag) : Bool := (t.value? "type").any fun v => v.map Char.toLower = "hidden"

def startInTable (t : Tag) : Build Progress := do
  match t.name with
  | "caption" => done do
    popToContext tableContext
    addBorder
    insertTag t
    setMode .caption
  | "colgroup" => done do
    popToContext tableContext
    insertTag t
    setMode .columns
  | "col" =>
    popToContext tableContext
    insertNamed "colgroup"
    return .again .columns
  | "tbody" | "tfoot" | "thead" => done do
    popToContext tableContext
    insertTag t
    setMode .tableBody
  | "td" | "th" | "tr" =>
    popToContext tableContext
    insertNamed "tbody"
    return .again .tableBody
  | "table" =>
    if (← get).hasNamed Scope.table "table" then
      popThroughNamed "table"
      againReset
    else return .done
  | "style" | "script" | "template" => done (startInHead t)
  | "input" => done (if isHidden t then insertVoid t else fostered (startInBody t))
  | "form" => done do
    let b ← get
    when (! b.hasOpen "template" && b.form.isNone) do
      let i ← insert (Vocabulary.element .html t.name t.attributes)
      modify fun b => { b with form := some i }
  | _ => done (fostered (startInBody t))

def endInTable (name : String) : Build Progress := done do
  match name with
  | "table" =>
    when ((← get).hasNamed Scope.table "table") do
      popThroughNamed "table"
      resetMode
  | "template" => closeTemplate
  | _ =>
    when (! misplacedNames.contains name && name ≠ "html") (fostered (endInBody name))

/-- Text in a part of a table is collected first; elsewhere it goes before the table. -/
def textInTable (c : Char) : Build Progress := do
  if (← get).currentIn Names.tableParts then
    modify fun b => { b with resume := b.mode }
    return .again .tableText
  else done (fostered (textInBody c))

/-- Places the collected text: before the table, unless it is blank. -/
def flushTableText : Build Progress := do
  let b ← get
  set { b with tableText := [] }
  if b.tableText.all Token.isSpace then
    when (b.tableText ≠ []) insertText
  else fostered (b.tableText.reverse.forM textInBody)
  return .again b.resume

/-! ## Parts of tables -/

def endCaption : Build Unit := do
  closeImplied
  popThroughNamed "caption"
  clearToBorder

def closeCaption : Build Progress := do
  if (← get).hasNamed Scope.table "caption" then
    endCaption
    return .again .table
  else return .done

/-- A column group ends where anything else than a column comes. -/
def leaveColumns : Build Progress := do
  if (← get).currentIs "colgroup" then
    pop
    return .again .table
  else return .done

def closeSection : Build Unit := do
  popToContext sectionContext
  pop

def leaveSection : Build Progress := do
  if (← get).hasAmong Scope.table ["table", "tbody", "tfoot"] then
    closeSection
    return .again .table
  else return .done

def startInSection (t : Tag) : Build Progress := do
  match t.name with
  | "tr" => done do
    popToContext sectionContext
    insertTag t
    setMode .row
  | "td" | "th" =>
    popToContext sectionContext
    insertNamed "tr"
    return .again .row
  | _ => if partNames.contains t.name then leaveSection else startInTable t

def endInSection (name : String) : Build Progress := do
  match name with
  | "tbody" | "tfoot" | "thead" => done do
    when ((← get).hasNamed Scope.table name) do
      closeSection
      setMode .table
  | "table" => leaveSection
  | "body" | "caption" | "col" | "colgroup" | "html" | "td" | "th" | "tr" => return .done
  | _ => endInTable name

def closeRow : Build Unit := do
  popToContext rowContext
  pop

def leaveRow : Build Progress := do
  if (← get).hasNamed Scope.table "tr" then
    closeRow
    return .again .tableBody
  else return .done

def startInRow (t : Tag) : Build Progress := do
  match t.name with
  | "td" | "th" => done do
    popToContext rowContext
    insertTag t
    setMode .cell
    addBorder
  | "tr" => leaveRow
  | _ => if partNames.contains t.name then leaveRow else startInTable t

def endInRow (name : String) : Build Progress := do
  match name with
  | "tr" => done do
    when ((← get).hasNamed Scope.table "tr") do
      closeRow
      setMode .tableBody
  | "table" => leaveRow
  | "tbody" | "tfoot" | "thead" =>
    if (← get).hasNamed Scope.table name then leaveRow else return .done
  | "body" | "caption" | "col" | "colgroup" | "html" | "td" | "th" => return .done
  | _ => endInTable name

def leaveCell : Build Progress := do
  closeImplied
  popThrough fun e => e.isHtmlIn Names.cells
  clearToBorder
  return .again .row

def startInCell (t : Tag) : Build Progress := do
  if partNames.contains t.name || ["td", "th", "tr"].contains t.name then
    if (← get).hasAmong Scope.table Names.cells then leaveCell else return .done
  else done (startInBody t)

def endInCell (name : String) : Build Progress := do
  match name with
  | "td" | "th" => done do
    when ((← get).hasNamed Scope.table name) do
      closeImplied
      popThroughNamed name
      clearToBorder
      setMode .row
  | "body" | "caption" | "col" | "colgroup" | "html" => return .done
  | "table" | "tbody" | "tfoot" | "thead" | "tr" =>
    if (← get).hasNamed Scope.table name then leaveCell else return .done
  | _ => done (endInBody name)

/-! ## Selections -/

def popOption : Build Unit := do when ((← get).currentIs "option") pop

def popOptionGroup : Build Unit := do when ((← get).currentIs "optgroup") pop

def closeSelect : Build Unit := do
  when ((← get).hasNamed Scope.select "select") do
    popThroughNamed "select"
    resetMode

def startInSelect (t : Tag) : Build Progress := do
  match t.name with
  | "html" => done (startInBody t)
  | "option" => done do
    popOption
    insertTag t
  | "optgroup" => done do
    popOption
    popOptionGroup
    insertTag t
  | "hr" => done do
    popOption
    popOptionGroup
    insertVoid t
  | "select" => done closeSelect
  | "input" | "keygen" | "textarea" =>
    if (← get).hasNamed Scope.select "select" then
      popThroughNamed "select"
      againReset
    else return .done
  | "script" | "template" => done (startInHead t)
  | _ => return .done

def endInSelect (name : String) : Build Unit := do
  match name with
  | "optgroup" =>
    let b ← get
    when (b.currentIs "option" && (b.opened.drop 1).head?.any fun i =>
      (b.elementAt i).isHtml "optgroup") pop
    popOptionGroup
  | "option" => popOption
  | "select" => closeSelect
  | "template" => closeTemplate
  | _ => pure ()

/-- Tags of a table that end a selection in it. -/
def tableTagNames : List String :=
  ["caption", "table", "tbody", "tfoot", "thead", "tr", "td", "th"]

def startInTableSelect (t : Tag) : Build Progress := do
  if tableTagNames.contains t.name then
    popThroughNamed "select"
    againReset
  else startInSelect t

def endInTableSelect (name : String) : Build Progress := do
  if tableTagNames.contains name then
    if (← get).hasNamed Scope.table name then
      popThroughNamed "select"
      againReset
    else return .done
  else done (endInSelect name)

/-! ## Templates -/

/-- The mode that the first element of a template calls for. -/
def templateMode (name : String) : Mode :=
  if ["caption", "colgroup", "tbody", "tfoot", "thead"].contains name then .table
  else if name = "col" then .columns
  else if name = "tr" then .tableBody
  else if Names.cells.contains name then .row
  else .body

def startInTemplate (t : Tag) : Build Progress := do
  if headNames.contains t.name then done (startInHead t)
  else
    let m := templateMode t.name
    modify fun b => { b with templateModes := m :: b.templateModes.tail }
    return .again m

end Grouping.Markup.Build
