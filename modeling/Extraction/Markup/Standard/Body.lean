import Extraction.Markup.Standard.Adoption

/-!
# Tokens in the head and in the body

What a token does to a document depends on the mode. This module holds the rules of the head and of
the body, on which those of all other modes fall back.

## Main definitions

* `Markup.Standard.Outcome` : a state, and whether the token is to be read again in its mode.
* `Markup.Standard.headStart` : an opening tag in the head.
* `Markup.Standard.bodyStart`, `Markup.Standard.bodyStop` : tags in the body.
-/

namespace Extraction.Markup.Standard

open Text

/-- What a token gives: a state, and whether the token is to be read again in the mode of it. -/
structure Outcome where
  /-- The state. -/
  state : State
  /-- Whether the token is to be read again. -/
  again : Bool := false

/-- The token is done with. -/
def done (st : State) : Outcome :=
  ⟨st, false⟩

/-- The token is to be read again. -/
def again (st : State) : Outcome :=
  ⟨st, true⟩

namespace State

/-- The attributes of an opening tag of the root are added to the root. -/
def rootAttributes (st : State) (as : List Attribute) : State :=
  st.addAttributes st.outermost as

/-- The head is closed. -/
def closeHead (st : State) : State :=
  { st.pop with mode := .afterHead }

/-- An open paragraph is closed. -/
def closeParagraph (st : State) : State :=
  if st.inScope "p" .button then (st.closeImplied "p").popThrough ["p"] else st

/-- An element is put where no paragraph is open. -/
def insertBlock (st : State) (name : String) (as : List Attribute) : State :=
  st.closeParagraph.insert name as

/-- Frames may no longer take the place of a body. -/
def forbidFrames (st : State) : State :=
  { st with framesOk := false }

/-- An element is closed in which nothing but implied elements may be open. -/
def closeBlock (st : State) (name : String) : State :=
  if st.inScope name then st.closeImplied.popThrough [name] else st

end State

/-- An opening tag in the head. -/
def headStart (st : State) (name : String) (as : List Attribute) : Outcome :=
  match name with
  | "html" => done (st.rootAttributes as)
  | "base" | "basefont" | "bgsound" | "command" | "link" | "meta" => done (st.insertVoid name as)
  | "title" => done ((st.insert name as).readText (.references name))
  | "noframes" | "style" => done ((st.insert name as).readText (.verbatim name))
  | "noscript" => done { st.insert name as with mode := .inHeadNoscript }
  | "script" => done ((st.insert name as).readText .script)
  | "head" => done st
  | _ => again st.closeHead

/-- The names of headings. -/
def headingNames : List String := ["h1", "h2", "h3", "h4", "h5", "h6"]

/-- The formatting elements, apart from links. -/
def formattingNames : List String :=
  ["b", "big", "code", "em", "font", "i", "s", "small", "strike", "strong", "tt", "u"]

/-- The blocks, in which no paragraph around them is open. -/
def blockNames : List String := [
  "address", "article", "aside", "blockquote", "center", "details", "dir", "div", "dl", "fieldset",
  "figcaption", "figure", "footer", "header", "hgroup", "main", "menu", "nav", "ol", "section",
  "summary", "ul"]

/-- An item of a list is opened, where `others` are the items that it closes. -/
def startItem (st : State) (name : String) (others : List String) (as : List Attribute) : State :=
  let st := st.forbidFrames
  let passes := fun (n : Nat) =>
    !others.contains (st.name n) &&
      (!st.isSpecial n || ["address", "div", "p"].contains (st.name n))
  let st :=
    match st.stack.find? fun n => !passes n with
    | some n =>
      let item := st.name n
      if others.contains item && st.inScope item (if item == "li" then .list else .usual) then
        (st.closeImplied item).popThrough [item]
      else st
    | none => st
  st.insertBlock name as

/-- An opening tag of a link. -/
def startLink (st : State) (as : List Attribute) : State :=
  let st :=
    match st.lastFormatting? "a" with
    | some n =>
      let st := st.closeFormatting "a"
      { st with stack := st.stack.erase n, formatting := st.formatting.erase (some n) }
    | none => st
  st.reopen.insertFormatting "a" as

/-- An element of a drawing or a formula is opened. -/
def startForeign (st : State) (space name : String) (as : List Attribute) (closes : Bool) : State :=
  let st := st.open_
    { name, space := some space, attributes := foreignAttributes space as }
  if closes then st.pop else st

/-- The modes of tables. -/
def tableModes : List Mode :=
  [.inTable, .inCaption, .inColumns, .inRows, .inRow, .inCell]

/-- An opening tag of an element that takes the place of the body. -/
def startFrames (st : State) (as : List Attribute) : State :=
  match st.stack.reverse with
  | root :: body :: _ =>
    if !st.framesOk then st
    else
      { { st with forest := st.forest.detach body, stack := [root] }.insert "frameset" as with
        mode := .inFrames }
  | _ => st

/-- An opening tag in the body. -/
def bodyStart (st : State) (name : String) (as : List Attribute) (closes : Bool) : Outcome :=
  match name with
  | "html" => done (st.rootAttributes as)
  | "base" | "basefont" | "bgsound" | "command" | "link" | "meta" | "script" | "style"
  | "title" => headStart st name as
  | "body" =>
    match st.stack.reverse with
    | _ :: body :: _ =>
      if st.name body == "body" then done (st.forbidFrames.addAttributes body as) else done st
    | _ => done st
  | "frameset" => done (startFrames st as)
  | "h1" | "h2" | "h3" | "h4" | "h5" | "h6" =>
    let st := st.closeParagraph
    let st := if headingNames.contains st.currentName then st.pop else st
    done (st.insert name as)
  | "pre" | "listing" => done { (st.insertBlock name as).forbidFrames with dropsBreak := true }
  | "form" =>
    if st.form.isSome then done st
    else
      let st := st.insertBlock name as
      done { st with form := some st.current }
  | "li" => done (startItem st name ["li"] as)
  | "dt" | "dd" => done (startItem st name ["dt", "dd"] as)
  | "plaintext" => done { st.insertBlock name as with lexing := .nothing }
  | "p" => done (st.insertBlock name as)
  | "a" => done (startLink st as)
  | "nobr" =>
    let st := st.reopen
    let st := if st.inScope "nobr" then (st.closeFormatting "nobr").reopen else st
    done (st.insertFormatting name as)
  | "button" =>
    if st.inScope "button" then again (st.closeBlock "button")
    else done (st.reopen.insert name as).forbidFrames
  | "applet" | "marquee" | "object" =>
    let st := (st.reopen.insert name as).forbidFrames
    done { st with formatting := none :: st.formatting }
  | "xmp" =>
    done (((st.closeParagraph.reopen).forbidFrames.insert name as).readText (.verbatim name))
  | "table" =>
    let st := if st.old then st else st.closeParagraph
    done { (st.insert name as).forbidFrames with mode := .inTable }
  | "area" | "br" | "embed" | "img" | "keygen" | "wbr" =>
    done (st.reopen.insertVoid name as).forbidFrames
  | "image" => done (st.reopen.insertVoid "img" as).forbidFrames
  | "input" =>
    let after := st.reopen.insertVoid name as
    let hidden := as.any fun a => a.name == "type" && asciiLowerString a.value == "hidden"
    done (if hidden then after else after.forbidFrames)
  | "param" | "source" | "track" => done (st.insertVoid name as)
  | "hr" => done (st.closeParagraph.insertVoid name as).forbidFrames
  | "textarea" =>
    done { (st.insert name as).forbidFrames with lexing := .references name, dropsBreak := true }
  | "iframe" => done ((st.forbidFrames.insert name as).readText (.verbatim name))
  | "noembed" | "noframes" => done ((st.insert name as).readText (.verbatim name))
  | "select" =>
    let after := (st.reopen.insert name as).forbidFrames
    done { after with mode := if tableModes.contains st.mode then .inTableSelect else .inSelect }
  | "rp" | "rt" =>
    let st := if st.inScope "ruby" then st.closeImplied else st
    done (st.insert name as)
  | "option" | "optgroup" =>
    let st := if st.currentName == "option" then st.closeOther "option" else st
    done (st.reopen.insert name as)
  | "math" => done (startForeign st.reopen formulaSpace name as closes)
  | "svg" => done (startForeign st.reopen drawingSpace name as closes)
  | "caption" | "col" | "colgroup" | "frame" | "head" | "tbody" | "td" | "tfoot" | "th"
  | "thead" | "tr" => done st
  | _ =>
    if blockNames.contains name then done (st.insertBlock name as)
    else if formattingNames.contains name then done (st.reopen.insertFormatting name as)
    else done (st.reopen.insert name as)

/-- The blocks that are closed by their own closing tags. -/
def closedBlockNames : List String :=
  blockNames ++ ["button", "dialog", "listing", "pre"]

/-- A closing tag in the body. -/
def bodyStop (st : State) (name : String) : Outcome :=
  match name with
  | "body" => done (if st.inScope "body" then { st with mode := .afterBody } else st)
  | "html" => if st.inScope "body" then again { st with mode := .afterBody } else done st
  | "form" =>
    let after := { st with form := none }
    match st.form with
    | none => done after
    | some n =>
      if st.reaches .usual (· == n) then
        let after := after.closeImplied
        done { after with stack := after.stack.erase n }
      else done after
  | "p" =>
    let st := if st.inScope "p" .button then st else st.insertBlock "p" []
    done st.closeParagraph
  | "dd" | "dt" | "li" =>
    if st.inScope name (if name == "li" then .list else .usual) then
      done ((st.closeImplied name).popThrough [name])
    else done st
  | "h1" | "h2" | "h3" | "h4" | "h5" | "h6" =>
    if headingNames.any fun h => st.inScope h then
      done (st.closeImplied.popThrough headingNames)
    else done st
  | "a" | "nobr" => done (st.closeFormatting name)
  | "applet" | "marquee" | "object" =>
    if st.inScope name then done (st.closeBlock name).clearFormatting else done st
  | "br" => done (st.reopen.insertVoid "br")
  | _ =>
    if closedBlockNames.contains name then
      let st := if name == "pre" then { st with dropsBreak := false } else st
      done (st.closeBlock name)
    else if formattingNames.contains name then done (st.closeFormatting name)
    else done (st.closeOther name)

/-- A text in the body that does not begin with a blank. -/
def bodyText (st : State) (s : List Char) : State :=
  if s == ['\x00'] then st
  else
    let st := st.reopen.insertText s
    if s.all isSpace then st else st.forbidFrames

/-- Whether an element has nothing in it. -/
def isEmptyElement (st : State) (n : Nat) : Bool :=
  (st.forest.entry n).parts.isEmpty

/-- Blanks in the body. -/
def bodyBlanks (st : State) (s : List Char) : State :=
  let drops := st.dropsBreak && s.head? == some '\n' &&
    ["pre", "listing", "textarea"].contains st.currentName && isEmptyElement st st.current
  let st := { st with dropsBreak := false }
  let s := if drops then s.drop 1 else s
  if s.isEmpty then st else st.reopen.insertText s

end Extraction.Markup.Standard
