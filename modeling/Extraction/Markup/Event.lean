import Extraction.Markup.Tree

/-!
# From events to trees

A reader of markup tells what it meets as events. Texts that follow each other are one text. A
closing event closes the last open element of its name and all elements opened after it; without an
open element of its name it means nothing. What is open at the end is closed there.

## Main definitions

* `Markup.Event` : what a reader meets.
* `Markup.OpenElement`, `Markup.Growth` : a tree that is not yet complete.
* `Markup.treeOf` : the nodes that events describe.
-/

namespace Extraction.Markup

open Text

/-- What a reader of markup meets. -/
inductive Event where
  /-- An element is opened. -/
  | opened (tag : Tag)
  /-- The elements of a name are closed. -/
  | closed (name : String) (qualifier : Option String)
  /-- A piece of text is met. -/
  | chars (s : List Char)
  /-- A text that is no content is met. -/
  | aside (kind : TextKind) (s : List Char)
  deriving Repr

/-- An element that is open, with its nodes so far, the last one first. -/
structure OpenElement where
  /-- Its tag. -/
  tag : Tag
  /-- Its nodes so far, the last one first. -/
  done : List Node
  deriving Repr

/-- A tree that is not yet complete. -/
structure Growth where
  /-- The nodes at the top, the last one first. -/
  done : List Node := []
  /-- The open elements, the innermost first. -/
  stack : List OpenElement := []
  /-- The text that has been met since the last other event, the last piece first. -/
  pending : List (List Char) := []
  deriving Repr

namespace Growth

/-- A node put into the innermost open element. -/
def add (g : Growth) (n : Node) : Growth :=
  match g.stack with
  | [] => { g with done := n :: g.done }
  | top :: rest => { g with stack := { top with done := n :: top.done } :: rest }

/-- Whether a character is a blank of markup. -/
def isMarkupBlank (c : Char) : Bool :=
  [' ', '\n', '\t', '\x0c', '\r'].contains c

/-- A text of nothing but blanks becomes a single blank: a line break if it holds one. -/
def collapse (s : List Char) : List Char :=
  if s.all isMarkupBlank then (if s.contains '\n' then ['\n'] else [' ']) else s

/-- A text as it is kept, where `keeps` tells whether its blanks count. -/
def kept (d : Dialect) (g : Growth) (s : List Char) : List Char :=
  if g.stack.any fun e => d.keepsBlanks e.tag.name then s else collapse s

/-- The kind of the plain texts in the open elements: that of the innermost element which keeps its
texts for itself. -/
def textKind (d : Dialect) (g : Growth) : TextKind :=
  (g.stack.findSome? fun e => d.ownKind? e.tag.name).getD .plain

/-- The text that has been met becomes a node. -/
def flush (d : Dialect) (g : Growth) : Growth :=
  match g.pending with
  | [] => g
  | pieces =>
    let s := pieces.reverse.flatten
    { g with pending := [] }.add (.text (g.textKind d) (g.kept d s))

/-- The innermost open element is closed. -/
def closeTop (g : Growth) : Growth :=
  match g.stack with
  | [] => g
  | top :: rest => { g with stack := rest }.add (.element top.tag top.done.reverse)

/-- Open elements are closed up to the last one of a name: `fuel` bounds their number. -/
def closeTo (name : String) (qualifier : Option String) : Nat → Growth → Growth
  | 0, g => g
  | fuel + 1, g =>
    if g.stack.any fun e => e.tag.name == name then
      match g.stack with
      | [] => g
      | top :: _ =>
        if top.tag.name == name && top.tag.qualifier == qualifier then g.closeTop
        else closeTo name qualifier fuel g.closeTop
    else g

/-- A tree after one more event. -/
def step (d : Dialect) (g : Growth) : Event → Growth
  | .chars s => { g with pending := s :: g.pending }
  | .opened tag =>
    let g := g.flush d
    let tag := { tag with attributes := tag.attributes.map (d.keepAttribute tag.name) }
    { g with stack := ⟨tag, []⟩ :: g.stack }
  | .closed name qualifier =>
    let g := g.flush d
    g.closeTo name qualifier g.stack.length
  | .aside kind s =>
    let g := g.flush d
    g.add (.text kind (g.kept d s))

/-- The nodes of a tree after all open elements are closed. -/
def finish (g : Growth) : List Node :=
  (g.stack.length.repeat closeTop g).done.reverse

end Growth

/-- The nodes that events describe. -/
def treeOf (d : Dialect) (events : List Event) : List Node :=
  ((events.foldl (Growth.step d) {}).flush d).finish

end Extraction.Markup
