import Extraction.Markup.Standard.Body

/-!
# Tokens in all modes

This module holds the rules of all modes but those of the head and of the body. A rule either is
done with a token or changes the mode and has the token read again.

## Main definitions

* `Markup.Standard.startRule`, `Markup.Standard.stopRule` : tags, by the mode.
* `Markup.Standard.textRule`, `Markup.Standard.blanksRule` : texts, by the mode.
* `Markup.Standard.endRule` : the end of the text, by the mode.
* `Markup.Standard.foreignStart`, `Markup.Standard.foreignStop` : tags in drawings and formulas.
-/

namespace Extraction.Markup.Standard

open Text

namespace State

/-- The root element is put into the document. -/
def insertRoot (st : State) : State :=
  let (n, forest) := st.forest.create (hypertextTag "html" [])
  { st with forest := forest.append 0 n, stack := [n], mode := .beforeHead }

/-- The head is put into the document and opened. -/
def insertHead (st : State) (as : List Attribute) : State :=
  let st := st.insert "head" as
  { st with head := some st.current, mode := .inHead }

/-- The body is put into the document and opened. -/
def insertBody (st : State) : State :=
  { st.insert "body" with mode := .inBody, framesOk := true }

/-- Elements are closed up to a table. -/
def toTable (st : State) : State :=
  st.popTo ["table", "html"]

/-- Elements are closed up to a group of rows. -/
def toRows (st : State) : State :=
  st.popTo ["tbody", "tfoot", "thead", "html"]

/-- Elements are closed up to a row. -/
def toRow (st : State) : State :=
  st.popTo ["tr", "html"]

/-- A table is closed if it is open, and the mode is that of what is around it. -/
def closeTable (st : State) : State :=
  if st.inScope "table" .table then
    let st := st.closeImplied.popThrough ["table"]
    { st with mode := st.modeOfStack }
  else st

/-- The innermost group of rows is closed. -/
def closeRows (st : State) : State :=
  { st.toRows.pop with mode := .inTable }

/-- Whether a group of rows is open in the innermost table. -/
def hasRows (st : State) : Bool :=
  st.inScope "tbody" .table || st.inScope "thead" .table || st.inScope "tfoot" .table

/-- The innermost row is closed. -/
def closeRow (st : State) : State :=
  { st.toRow.pop with mode := .inRows }

/-- A caption is closed. -/
def closeCaption (st : State) : State :=
  { (st.closeImplied.popThrough ["caption"]).clearFormatting with mode := .inTable }

/-- A cell of a name is closed. -/
def closeCellOf (st : State) (name : String) : State :=
  { ((st.closeImplied name).popThrough [name]).clearFormatting with mode := .inRow }

/-- The innermost cell is closed. -/
def closeCell (st : State) : State :=
  if st.inScope "td" .table then st.closeCellOf "td"
  else if st.inScope "th" .table then st.closeCellOf "th"
  else st

/-- A selection is closed if it is open, and the mode is that of what is around it. -/
def closeSelect (st : State) : State :=
  if st.inScope "select" .select then
    let st := st.popThrough ["select"]
    { st with mode := st.modeOfStack }
  else st

/-- The texts met in a table are put into the document: blanks in the table, other texts before
it. -/
def flushTableText (st : State) : State :=
  let s := st.tableText.reverse.flatten
  let st := { st with tableText := [], mode := st.tableReturn }
  if s.isEmpty then st
  else if s.all isSpace then st.insertText s
  else { bodyText { st with fostering := true } s with fostering := false }

/-- A group of columns is closed, unless there is none. -/
def closeColumns (st : State) : State :=
  if st.currentName == "html" then st else { st.pop with mode := .inTable }

end State

/-- A result of the body's rules for what is put before a table. -/
def fostered (rule : State → Outcome) (st : State) : Outcome :=
  let o := rule { st with fostering := true }
  { o with state := { o.state with fostering := false } }

/-- An opening tag in a table. -/
def tableStart (st : State) (name : String) (as : List Attribute) (closes : Bool) : Outcome :=
  match name with
  | "html" => done (st.rootAttributes as)
  | "caption" =>
    let st := st.toTable
    let st := { st with formatting := none :: st.formatting }
    done { st.insert name as with mode := .inCaption }
  | "colgroup" => done { st.toTable.insert name as with mode := .inColumns }
  | "col" => again { st.toTable.insert "colgroup" with mode := .inColumns }
  | "tbody" | "tfoot" | "thead" => done { st.toTable.insert name as with mode := .inRows }
  | "td" | "th" | "tr" => again { st.toTable.insert "tbody" with mode := .inRows }
  | "table" => if st.inScope "table" .table then again st.closeTable else done st
  | "style" | "script" => headStart st name as
  | "input" =>
    if as.any fun a => a.name == "type" && asciiLowerString a.value == "hidden" then
      done (st.insertVoid name as)
    else fostered (bodyStart · name as closes) st
  | "form" =>
    if st.form.isSome then done st
    else
      let st := st.insert name as
      done { st with form := some st.current }.pop
  | _ => fostered (bodyStart · name as closes) st

/-- A closing tag in a table. -/
def tableStop (st : State) (name : String) : Outcome :=
  match name with
  | "table" => done st.closeTable
  | "body" | "caption" | "col" | "colgroup" | "html" | "tbody" | "td" | "tfoot" | "th" | "thead"
  | "tr" => done st
  | _ => fostered (bodyStop · name) st

/-- The elements of which tables are made, apart from rows. -/
def tablePartNames : List String :=
  ["caption", "col", "colgroup", "tbody", "td", "tfoot", "th", "thead", "tr"]

/-- An opening tag in a caption. -/
def captionStart (st : State) (name : String) (as : List Attribute) (closes : Bool) : Outcome :=
  if tablePartNames.contains name then
    if st.inScope "caption" .table then again st.closeCaption else done st
  else bodyStart st name as closes

/-- A closing tag in a caption. -/
def captionStop (st : State) (name : String) : Outcome :=
  match name with
  | "caption" => done (if st.inScope "caption" .table then st.closeCaption else st)
  | "table" => if st.inScope "caption" .table then again st.closeCaption else done st
  | "body" | "col" | "colgroup" | "html" | "tbody" | "td" | "tfoot" | "th" | "thead" | "tr" =>
    done st
  | _ => bodyStop st name

/-- A token for which a group of columns is closed first. -/
def afterColumns (st : State) : Outcome :=
  ⟨st.closeColumns, st.currentName != "html"⟩

/-- An opening tag in a group of columns. -/
def columnsStart (st : State) (name : String) (as : List Attribute) : Outcome :=
  match name with
  | "html" => done (st.rootAttributes as)
  | "col" => done (st.insertVoid name as)
  | _ => afterColumns st

/-- A closing tag in a group of columns. -/
def columnsStop (st : State) (name : String) : Outcome :=
  match name with
  | "colgroup" => done st.closeColumns
  | "col" => done st
  | _ => afterColumns st

/-- An opening tag in a group of rows. -/
def rowsStart (st : State) (name : String) (as : List Attribute) (closes : Bool) : Outcome :=
  match name with
  | "html" => done (st.rootAttributes as)
  | "tr" => done { st.toRows.insert name as with mode := .inRow }
  | "td" | "th" => again { st.toRows.insert "tr" with mode := .inRow }
  | "caption" | "col" | "colgroup" | "tbody" | "tfoot" | "thead" =>
    if st.hasRows then again st.closeRows else done st
  | _ => tableStart st name as closes

/-- A closing tag in a group of rows. -/
def rowsStop (st : State) (name : String) : Outcome :=
  match name with
  | "tbody" | "tfoot" | "thead" => done (if st.inScope name .table then st.closeRows else st)
  | "table" => if st.hasRows then again st.closeRows else done st
  | "body" | "caption" | "col" | "colgroup" | "html" | "td" | "th" | "tr" => done st
  | _ => tableStop st name

/-- A token for which a row is closed first. -/
def afterRow (st : State) : Outcome :=
  if st.inScope "tr" .table then again st.closeRow else done st

/-- An opening tag in a row. -/
def rowStart (st : State) (name : String) (as : List Attribute) (closes : Bool) : Outcome :=
  match name with
  | "html" => done (st.rootAttributes as)
  | "td" | "th" =>
    let st := st.toRow.insert name as
    done { st with formatting := none :: st.formatting, mode := .inCell }
  | "caption" | "col" | "colgroup" | "tbody" | "tfoot" | "thead" | "tr" => afterRow st
  | _ => tableStart st name as closes

/-- A closing tag in a row. -/
def rowStop (st : State) (name : String) : Outcome :=
  match name with
  | "tr" => done (afterRow st).state
  | "table" => afterRow st
  | "tbody" | "tfoot" | "thead" => if st.inScope name .table then afterRow st else done st
  | "body" | "caption" | "col" | "colgroup" | "html" | "td" | "th" => done st
  | _ => tableStop st name

/-- An opening tag in a cell. -/
def cellStart (st : State) (name : String) (as : List Attribute) (closes : Bool) : Outcome :=
  if tablePartNames.contains name then
    if st.inScope "td" .table || st.inScope "th" .table then again st.closeCell else done st
  else bodyStart st name as closes

/-- A closing tag in a cell. -/
def cellStop (st : State) (name : String) : Outcome :=
  match name with
  | "td" | "th" => done (if st.inScope name .table then st.closeCellOf name else st)
  | "body" | "caption" | "col" | "colgroup" | "html" => done st
  | "table" | "tbody" | "tfoot" | "thead" | "tr" =>
    if st.inScope name .table then again st.closeCell else done st
  | _ => bodyStop st name

/-- An opening tag in a selection. -/
def selectStart (st : State) (name : String) (as : List Attribute) : Outcome :=
  let closeOption := fun (st : State) => if st.currentName == "option" then st.pop else st
  match name with
  | "html" => done (st.rootAttributes as)
  | "option" => done ((closeOption st).insert name as)
  | "optgroup" =>
    let st := closeOption st
    let st := if st.currentName == "optgroup" then st.pop else st
    done (st.insert name as)
  | "select" => done st.closeSelect
  | "input" | "keygen" | "textarea" =>
    if st.inScope "select" .select then again st.closeSelect else done st
  | "script" => headStart st name as
  | _ => done st

/-- A closing tag in a selection. -/
def selectStop (st : State) (name : String) : State :=
  match name with
  | "option" => if st.currentName == "option" then st.pop else st
  | "optgroup" =>
    let st :=
      match st.stack with
      | a :: b :: _ => if st.name a == "option" && st.name b == "optgroup" then st.pop else st
      | _ => st
    if st.currentName == "optgroup" then st.pop else st
  | "select" => st.closeSelect
  | _ => st

/-- The parts of tables before which a selection in a table is closed. -/
def selectEndNames : List String :=
  ["caption", "table", "tbody", "tfoot", "thead", "tr", "td", "th"]

/-- An opening tag after the head. -/
def afterHeadStart (st : State) (name : String) (as : List Attribute) : Outcome :=
  match name with
  | "html" => done (st.rootAttributes as)
  | "body" => done { (st.insert name as).forbidFrames with mode := .inBody }
  | "frameset" => done { st.insert name as with mode := .inFrames }
  | "base" | "basefont" | "bgsound" | "link" | "meta" | "noframes" | "script" | "style"
  | "title" =>
    match st.head with
    | some head =>
      let o := headStart { st with stack := head :: st.stack } name as
      done { o.state with stack := o.state.stack.erase head }
    | none => done st
  | "head" => done st
  | _ => again st.insertBody

/-- An opening tag among frames. -/
def framesStart (st : State) (name : String) (as : List Attribute) (closes : Bool) : Outcome :=
  match name with
  | "html" => done (st.rootAttributes as)
  | "frameset" => done (st.insert name as)
  | "frame" => done (st.insertVoid name as)
  | "noframes" => bodyStart st name as closes
  | _ => done st

/-- An opening tag, by the mode. -/
def startRule (st : State) (name : String) (as : List Attribute) (closes : Bool) : Outcome :=
  match st.mode with
  | .initial => again { st with old := true, mode := .beforeRoot }
  | .beforeRoot => again st.insertRoot
  | .beforeHead =>
    match name with
    | "html" => done (st.rootAttributes as)
    | "head" => done (st.insertHead as)
    | _ => again (st.insertHead [])
  | .inHead => headStart st name as
  | .inHeadNoscript =>
    match name with
    | "html" => done (st.rootAttributes as)
    | "basefont" | "bgsound" | "link" | "meta" | "noframes" | "style" => headStart st name as
    | "head" | "noscript" => done st
    | _ => again { st.pop with mode := .inHead }
  | .afterHead => afterHeadStart st name as
  | .inBody => bodyStart st name as closes
  | .inText => done st
  | .inTable => tableStart st name as closes
  | .inTableText => again st.flushTableText
  | .inCaption => captionStart st name as closes
  | .inColumns => columnsStart st name as
  | .inRows => rowsStart st name as closes
  | .inRow => rowStart st name as closes
  | .inCell => cellStart st name as closes
  | .inSelect => selectStart st name as
  | .inTableSelect =>
    if selectEndNames.contains name then again st.closeSelect else selectStart st name as
  | .afterBody =>
    if name == "html" then done (st.rootAttributes as) else again { st with mode := .inBody }
  | .inFrames => framesStart st name as closes
  | .afterFrames =>
    match name with
    | "html" => done (st.rootAttributes as)
    | "noframes" => headStart st name as
    | _ => done st
  | .afterAll =>
    if name == "html" then done (st.rootAttributes as) else again { st with mode := .inBody }
  | .afterAllFrames =>
    match name with
    | "html" => done (st.rootAttributes as)
    | "noframes" => headStart st name as
    | _ => done st

/-- The closing tags that open a missing root, head or body. -/
def openingStops : List String := ["head", "body", "html", "br"]

/-- A closing tag, by the mode. -/
def stopRule (st : State) (name : String) : Outcome :=
  match st.mode with
  | .initial => again { st with old := true, mode := .beforeRoot }
  | .beforeRoot => if openingStops.contains name then again st.insertRoot else done st
  | .beforeHead => if openingStops.contains name then again (st.insertHead []) else done st
  | .inHead =>
    match name with
    | "head" => done st.closeHead
    | "html" | "body" | "br" => again st.closeHead
    | _ => done st
  | .inHeadNoscript =>
    match name with
    | "noscript" => done { st.pop with mode := .inHead }
    | "br" => again { st.pop with mode := .inHead }
    | _ => done st
  | .afterHead =>
    if ["body", "html", "br"].contains name then again st.insertBody else done st
  | .inBody => bodyStop st name
  | .inText => done { st.pop with mode := st.textReturn }
  | .inTable => tableStop st name
  | .inTableText => again st.flushTableText
  | .inCaption => captionStop st name
  | .inColumns => columnsStop st name
  | .inRows => rowsStop st name
  | .inRow => rowStop st name
  | .inCell => cellStop st name
  | .inSelect => done (selectStop st name)
  | .inTableSelect =>
    if selectEndNames.contains name then
      if st.inScope name .table then again st.closeSelect else done st
    else done (selectStop st name)
  | .afterBody =>
    if name == "html" then done { st with mode := .afterAll }
    else again { st with mode := .inBody }
  | .inFrames =>
    if name == "frameset" && st.currentName != "html" then
      let st := st.pop
      done (if st.currentName == "frameset" then st else { st with mode := .afterFrames })
    else done st
  | .afterFrames => done (if name == "html" then { st with mode := .afterAllFrames } else st)
  | .afterAll => again { st with mode := .inBody }
  | .afterAllFrames => done st

/-- A text in a table is kept until the next other token. -/
def keepTableText (st : State) (s : List Char) : State :=
  if s == ['\x00'] then st else { st with tableText := s :: st.tableText }

/-- A text that does not begin with a blank, by the mode. -/
def textRule (st : State) (s : List Char) : Outcome :=
  match st.mode with
  | .initial => again { st with old := true, mode := .beforeRoot }
  | .beforeRoot => again st.insertRoot
  | .beforeHead => again (st.insertHead [])
  | .inHead => again st.closeHead
  | .inHeadNoscript => again { st.pop with mode := .inHead }
  | .afterHead => again st.insertBody
  | .inBody | .inCaption | .inCell => done (bodyText st s)
  | .inText => done (st.insertText s)
  | .inTable | .inRows | .inRow =>
    done (keepTableText { st with tableReturn := st.mode, mode := .inTableText } s)
  | .inTableText => done (keepTableText st s)
  | .inColumns => afterColumns st
  | .inSelect | .inTableSelect => done (if s == ['\x00'] then st else st.insertText s)
  | .afterBody | .afterAll => again { st with mode := .inBody }
  | .inFrames | .afterFrames | .afterAllFrames => done st

/-- Blanks, by the mode. -/
def blanksRule (st : State) (s : List Char) : State :=
  match st.mode with
  | .initial | .beforeRoot | .beforeHead => st
  | .inBody | .afterAll | .afterAllFrames => bodyBlanks st s
  | .inTable | .inRows | .inRow =>
    keepTableText { st with tableReturn := st.mode, mode := .inTableText } s
  | .inTableText => keepTableText st s
  | _ => st.insertText s

/-- A comment, by the mode. -/
def commentRule (st : State) (s : List Char) : Outcome :=
  match st.mode with
  | .initial | .beforeRoot | .afterAll | .afterAllFrames => done (st.insertComment 0 s)
  | .afterBody => done (st.insertComment st.outermost s)
  | .inTableText => again st.flushTableText
  | _ => done (st.insertComment st.current s)

/-- A declaration of the document's type counts only at the start. -/
def doctypeRule (st : State) (value : List Char) (old : Bool) : Outcome :=
  match st.mode with
  | .initial =>
    done { st with
      forest := st.forest.appendPart 0 (.aside .doctype value), old, mode := .beforeRoot }
  | .inTableText => again st.flushTableText
  | _ => done st

/-- The end of the text, by the mode: what is missing is put into the document. -/
def endRule (st : State) : Outcome :=
  match st.mode with
  | .initial => again { st with old := true, mode := .beforeRoot }
  | .beforeRoot => again st.insertRoot
  | .beforeHead => again (st.insertHead [])
  | .inHead => again st.closeHead
  | .inHeadNoscript => again { st.pop with mode := .inHead }
  | .afterHead => again st.insertBody
  | .inText => again { st.pop with mode := st.textReturn }
  | .inTableText => again st.flushTableText
  | .inColumns => afterColumns st
  | _ => done st

/-- Whether an element of hypertext, or one that holds hypertext, is the innermost one. -/
def isAtHypertext (st : State) : Bool :=
  st.stack.isEmpty || st.isHypertext st.current

/-- An opening tag in a drawing or a formula. -/
def foreignStart (st : State) (name : String) (as : List Attribute) (closes : Bool) : Outcome :=
  let styled := as.any fun a => ["color", "face", "size"].contains a.name
  if breakoutNames.contains name || (name == "font" && styled) then
    again { st with stack := st.stack.dropWhile fun n =>
      !(st.isHypertext n || holdsHypertext (st.tag n) || isFormulaText (st.tag n)) }
  else
    let space := (st.tag st.current).space.getD ""
    let written := if space == drawingSpace then drawingName name else name
    done (startForeign st space written as closes)

/-- A closing tag in a drawing or a formula: it closes the innermost element of its name before the
next element of hypertext. -/
def foreignStop (st : State) (name : String) : Outcome :=
  match st.stack.find? fun n => asciiLowerString (st.name n) == name || st.isHypertext n with
  | some n =>
    if asciiLowerString (st.name n) == name && !(st.isHypertext n && n != st.current) then
      let st := if st.mode == .inTableText then st.flushTableText else st
      done (st.popThroughElement n)
    else stopRule st name
  | none => stopRule st name

end Extraction.Markup.Standard
