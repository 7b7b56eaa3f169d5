import Extraction.Selector.Context
import Extraction.Text.Direction

/-!
# The direction of elements

An element declares the direction of its text, or leaves it to the text, or takes over that of the
element around it. The first element of a document is written from left to right unless it says
otherwise.

## Main definitions

* `Selector.textDirection?` : the direction of the texts in an element.
* `Selector.directionOf?` : the direction of an element.
-/

namespace Extraction.Selector

open Text Markup

/-- What an element declares about its direction. -/
inductive Declared where
  /-- A direction. -/
  | fixed (d : Direction)
  /-- The direction is that of its text. -/
  | auto
  /-- Nothing. -/
  | nothing
  deriving DecidableEq, Repr

/-- What an element declares about its direction. -/
def declaredDirection (c : Context) (t : Tag) : Declared :=
  match asciiLowerString ((attributeOf? c t "dir").getD "") with
  | "ltr" => .fixed .leftToRight
  | "rtl" => .fixed .rightToLeft
  | "auto" => .auto
  | _ => .nothing

/-- The elements whose texts say nothing about what is around them. -/
def isolated : List String := ["bdi", "script", "style", "textarea", "iframe"]

/-- Whether the texts in an element count for what is around it. -/
def countsOutside (c : Context) (t : Tag) : Bool :=
  !isolated.contains (c.nameKey t.name) && c.spaceOf t == hypertextSpace &&
    declaredDirection c t == .nothing

mutual

/-- The direction of the texts of a node. -/
def nodeDirection? (c : Context) : Node → Option Direction
  | .text kind s => if kind.isContent then direction? s else none
  | .element tag children =>
    if countsOutside c tag then textDirection? c children else none

/-- The direction of the texts of several nodes: that of the first one that has one. -/
def textDirection? (c : Context) : List Node → Option Direction
  | [] => none
  | n :: rest => (nodeDirection? c n).or (textDirection? c rest)

end

/-- The controls of forms that show a text. -/
def textControls : List String := ["text", "search", "tel", "url", "email"]

/-- The direction that an element has by itself, or nothing if it takes over that of the element
around it. -/
def ownDirection? (c : Context) (p : Place) : Option Direction :=
  let isInput := isNamed c p "input"
  let isArea := isNamed c p "textarea"
  let type := asciiLowerString ((attributeOf? c p.tag "type").getD "")
  let atTop : Option Direction := if isFirst c p then some .leftToRight else none
  let ofText (s : List Char) : Option Direction :=
    if s.isEmpty then atTop else some ((direction? s).getD .leftToRight)
  match declaredDirection c p.tag with
  | .fixed d => some d
  | .auto =>
    if isArea then ofText (p.node.children.filterMap Node.content?).flatten
    else if isInput && textControls.contains type then
      ofText ((attributeOf? c p.tag "value").getD "").toList
    else (textDirection? c p.node.children).or atTop
  | .nothing =>
    if isFirst c p then some .leftToRight
    else if isInput && type == "tel" then some .leftToRight
    else if isNamed c p "bdi" then textDirection? c p.node.children
    else none

/-- The direction of the first of several elements, each around the one before it, that has one by
itself. Outside of hypertext there is none. -/
def directionAmong? (c : Context) : List Place → Option Direction
  | [] => none
  | p :: rest =>
    if isHypertextElement c p then (ownDirection? c p).or (directionAmong? c rest) else none

/-- The direction of an element. -/
def directionOf? (c : Context) (p : Place) : Option Direction :=
  directionAmong? c (p :: p.ancestors)

end Extraction.Selector
