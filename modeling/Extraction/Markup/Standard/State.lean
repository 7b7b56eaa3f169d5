import Extraction.Markup.Standard.Foreign
import Extraction.Markup.Standard.Forest
import Extraction.Markup.Standard.Token

/-!
# Where the reading of hypertext stands

The reader keeps the elements that are open, the formatting elements that are to be opened again
where a block has closed them, and its mode, which tells what a token means. Elements that may not
be in a table are put before it.

## Main definitions

* `Markup.Standard.Mode` : the modes.
* `Markup.Standard.State` : where the reading stands.
* `Markup.Standard.State.inScope` : whether an open element can still be closed.
* `Markup.Standard.State.insert`, `Markup.Standard.State.insertText` : growth of the document.
* `Markup.Standard.State.reopen` : formatting elements are opened again.
-/

namespace Extraction.Markup.Standard

open Text

/-- What a token means depends on the mode. -/
inductive Mode where
  | initial
  | beforeRoot
  | beforeHead
  | inHead
  | inHeadNoscript
  | afterHead
  | inBody
  | inText
  | inTable
  | inTableText
  | inCaption
  | inColumns
  | inRows
  | inRow
  | inCell
  | inSelect
  | inTableSelect
  | afterBody
  | inFrames
  | afterFrames
  | afterAll
  | afterAllFrames
  deriving DecidableEq, Repr

/-- Where the reading stands. -/
structure State where
  /-- The elements. -/
  forest : Forest := {}
  /-- The open elements, the innermost first. -/
  stack : List Nat := []
  /-- The formatting elements, the last one first, with marks between them. -/
  formatting : List (Option Nat) := []
  /-- The mode. -/
  mode : Mode := .initial
  /-- The mode to which the reading of a text returns. -/
  textReturn : Mode := .initial
  /-- The mode to which the reading of a text in a table returns. -/
  tableReturn : Mode := .inTable
  /-- The texts in a table that are not yet put anywhere, the last one first. -/
  tableText : List (List Char) := []
  /-- The head of the document. -/
  head : Option Nat := none
  /-- The form that is open. -/
  form : Option Nat := none
  /-- Whether what is not allowed in a table is put before it. -/
  fostering : Bool := false
  /-- Whether the document asks for the layout of old browsers. -/
  old : Bool := false
  /-- Whether the document may still have frames in place of a body. -/
  framesOk : Bool := true
  /-- Whether a line break at the start of the element just opened is dropped. -/
  dropsBreak : Bool := false
  /-- What counts as markup. -/
  lexing : Lexing := .markup
  deriving Repr

namespace State

/-- The tag of an element. -/
def tag (st : State) (n : Nat) : Tag :=
  st.forest.tag n

/-- The name of an element. -/
def name (st : State) (n : Nat) : String :=
  st.forest.name n

/-- The innermost open element; the root of the document if none is open. -/
def current (st : State) : Nat :=
  st.stack.headD 0

/-- The name of the innermost open element. -/
def currentName (st : State) : String :=
  st.name st.current

/-- The outermost open element. -/
def outermost (st : State) : Nat :=
  st.stack.getLastD 0

/-- Whether an element is one of hypertext. -/
def isHypertext (st : State) (n : Nat) : Bool :=
  (st.tag n).space == some hypertextSpace

/-- The innermost open element is closed. -/
def pop (st : State) : State :=
  { st with stack := st.stack.drop 1 }

/-- Elements are closed until the innermost one has one of several names. -/
def popTo (st : State) (names : List String) : State :=
  { st with stack := st.stack.dropWhile fun n => !names.contains (st.name n) }

/-- Elements are closed up to and including the innermost one with one of several names. -/
def popThrough (st : State) (names : List String) : State :=
  (st.popTo names).pop

/-- Elements are closed up to and including a given one. -/
def popThroughElement (st : State) (n : Nat) : State :=
  { st with stack := (st.stack.dropWhile (· != n)).drop 1 }

/-- The elements of hypertext beyond which an element cannot be closed. -/
def barrierNames : List String :=
  ["applet", "caption", "html", "marquee", "object", "table", "td", "th"]

/-- What an element may not be beyond to be closed. -/
inductive Reach where
  /-- The usual elements. -/
  | usual
  /-- Those and buttons. -/
  | button
  /-- Those and lists. -/
  | list
  /-- Tables. -/
  | table
  /-- All but the parts of a selection. -/
  | select
  deriving DecidableEq

/-- Whether nothing beyond an element can be closed. -/
def isBarrier (reach : Reach) (t : Tag) : Bool :=
  let hypertext := t.space == some hypertextSpace
  let usual :=
    (hypertext && barrierNames.contains t.name) ||
      (t.space == some formulaSpace &&
        (t.name == "annotation-xml" || formulaTextNames.contains t.name)) ||
      (t.space == some drawingSpace && ["foreignObject", "desc", "title"].contains t.name)
  match reach with
  | .usual => usual
  | .button => usual || (hypertext && t.name == "button")
  | .list => usual || (hypertext && (t.name == "ol" || t.name == "ul"))
  | .table => hypertext && (t.name == "html" || t.name == "table")
  | .select => !(hypertext && (t.name == "optgroup" || t.name == "option"))

/-- Whether an open element satisfies a condition and nothing bars the way to it. -/
def reaches (st : State) (reach : Reach) (wanted : Nat → Bool) : Bool :=
  go st.stack
where
  /-- The search from the innermost element outwards. -/
  go : List Nat → Bool
    | [] => false
    | n :: rest => wanted n || (!isBarrier reach (st.tag n) && go rest)

/-- Whether an open element of a name can still be closed. -/
def inScope (st : State) (name : String) (reach : Reach := .usual) : Bool :=
  st.reaches reach fun n => st.isHypertext n && st.name n == name

/-- The elements that are closed where an element around them is. -/
def impliedNames : List String :=
  ["dd", "dt", "li", "option", "optgroup", "p", "rp", "rt"]

/-- Elements that are closed where an element around them is are closed, apart from one name. -/
def closeImplied (st : State) (except : String := "") : State :=
  { st with stack := st.stack.dropWhile fun n =>
      impliedNames.contains (st.name n) && st.name n != except }

/-- The tag of a new element of hypertext. -/
def hypertextTag (name : String) (attributes : List Attribute) : Tag :=
  { name, space := some hypertextSpace,
    attributes := attributes.map (Dialect.hypertext.keepAttribute name) }

/-- The elements in which only parts of tables may be. -/
def tableNames : List String :=
  ["table", "tbody", "tfoot", "thead", "tr"]

/-- Where something is put that may not be in a table: in an element, and before which part. -/
def fosterPlace (st : State) : Nat × Option Nat :=
  match st.stack.dropWhile fun n => st.name n != "table" with
  | table :: around =>
    match (st.forest.entry table).parent with
    | some parent => (parent, some table)
    | none => (around.headD 0, none)
  | [] => (st.outermost, none)

/-- Whether what comes next is put before a table. -/
def fosters (st : State) : Bool :=
  st.fostering && tableNames.contains st.currentName

/-- An element is put into the document and opened. -/
def open_ (st : State) (t : Tag) : State :=
  let (n, forest) := st.forest.create t
  let forest :=
    if st.fosters then
      match st.fosterPlace with
      | (parent, some mark) => forest.insertBefore parent n mark
      | (parent, none) => forest.append parent n
    else forest.append st.current n
  { st with forest, stack := n :: st.stack }

/-- An element of hypertext is put into the document and opened. -/
def insert (st : State) (name : String) (attributes : List Attribute := []) : State :=
  st.open_ (hypertextTag name attributes)

/-- An element without content is put into the document. -/
def insertVoid (st : State) (name : String) (attributes : List Attribute := []) : State :=
  (st.insert name attributes).pop

/-- A text is put into the document. -/
def insertText (st : State) (s : List Char) : State :=
  let forest :=
    if st.fosters then
      match st.fosterPlace with
      | (parent, some mark) => st.forest.insertPart parent (.text s) mark
      | (parent, none) => st.forest.appendPart parent (.text s)
    else st.forest.appendPart st.current (.text s)
  { st with forest }

/-- A comment is put into an element. -/
def insertComment (st : State) (parent : Nat) (s : List Char) : State :=
  { st with forest := st.forest.appendPart parent (.aside .comment s) }

/-- A tag with attributes that it does not have yet. -/
def withMissing (t : Tag) (more : List Attribute) : Tag :=
  { t with attributes := more.foldl (fun known a =>
      if known.any fun (b : Attribute) => b.name == a.name then known
      else known ++ [Dialect.hypertext.keepAttribute t.name a]) t.attributes }

/-- Attributes that an element does not have yet are added to it. -/
def addAttributes (st : State) (n : Nat) (more : List Attribute) : State :=
  { st with forest := st.forest.update n fun e => { e with tag := withMissing e.tag more } }

/-- What counts as markup is changed, and the text of the innermost element is read. -/
def readText (st : State) (lexing : Lexing) : State :=
  { st with lexing, textReturn := st.mode, mode := .inText }

/-- Whether an element is a formatting element that is known since the last mark. -/
def lastFormatting? (st : State) (name : String) : Option Nat :=
  (st.formatting.takeWhile Option.isSome).findSome? fun e =>
    e.bind fun n => if st.name n == name then some n else none

/-- The last mark among the formatting elements is removed with all elements after it. -/
def clearFormatting (st : State) : State :=
  { st with formatting := (st.formatting.dropWhile Option.isSome).drop 1 }

/-- A formatting element is put into the document and opened. -/
def insertFormatting (st : State) (name : String) (attributes : List Attribute) : State :=
  let st := st.insert name attributes
  { st with formatting := some st.current :: st.formatting }

/-- Formatting elements, the last one first, of which the first ones are opened again: how many are
not open and come after a mark or an open element. -/
def reopenCount (st : State) : Nat :=
  (st.formatting.takeWhile fun e =>
    match e with
    | some n => !st.stack.contains n
    | none => false).length

/-- The formatting elements that were closed since the last open one are opened again. -/
def reopen (st : State) : State :=
  let count := st.reopenCount
  let again := (st.formatting.take count).reverse
  let st := { st with formatting := st.formatting.drop count }
  again.foldl (fun st e =>
    match e with
    | none => st
    | some n =>
      let t := st.tag n
      let st := st.open_ { t with spaces := [] }
      { st with formatting := some st.current :: st.formatting }) st

/-- The elements at which the search for an element to be closed ends. -/
def specialNames : List String := [
  "address", "applet", "area", "article", "aside", "base", "basefont", "bgsound", "blockquote",
  "body", "br", "button", "caption", "center", "col", "colgroup", "command", "dd", "details", "dir",
  "div", "dl", "dt", "embed", "fieldset", "figure", "footer", "form", "frame", "frameset", "h1",
  "h2", "h3", "h4", "h5", "h6", "head", "header", "hr", "html", "iframe", "image", "img", "input",
  "isindex", "li", "link", "listing", "marquee", "menu", "meta", "nav", "noembed", "noframes",
  "noscript", "object", "ol", "p", "param", "plaintext", "pre", "script", "section", "select",
  "style", "table", "tbody", "td", "textarea", "tfoot", "th", "thead", "title", "tr", "ul", "wbr",
  "xmp"]

/-- Whether the search for an element to be closed ends at an element. -/
def isSpecial (st : State) (n : Nat) : Bool :=
  (st.isHypertext n && specialNames.contains (st.name n)) ||
    ((st.tag n).space == some drawingSpace && st.name n == "foreignObject")

/-- The mode that the open elements call for. -/
def modeOfStack (st : State) : Mode :=
  (st.stack.findSome? fun n => if st.isHypertext n then modeOf? (st.name n) else none).getD .inBody
where
  /-- The mode in an element. -/
  modeOf? : String → Option Mode
    | "select" => some .inSelect
    | "td" | "th" => some .inCell
    | "tr" => some .inRow
    | "tbody" | "thead" | "tfoot" => some .inRows
    | "caption" => some .inCaption
    | "colgroup" => some .inColumns
    | "table" => some .inTable
    | "head" | "body" => some .inBody
    | "frameset" => some .inFrames
    | "html" => some .beforeHead
    | _ => none

end State

end Extraction.Markup.Standard
