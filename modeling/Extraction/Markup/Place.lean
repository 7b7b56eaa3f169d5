import Extraction.Markup.Writer

/-!
# Places in a document

A place is a node together with all that is around it: the nodes before and after it among its
siblings, and the place of its parent. From a place one can go up, down and sideways.

## Main definitions

* `Markup.Place` : a place, either the root of a document or inside of another place.
* `Markup.Place.parent?`, `Markup.Place.ancestors`, `Markup.Place.elements`,
  `Markup.Place.descendants`, `Markup.Place.earlier`, `Markup.Place.later` : the places around one.
* `Markup.Place.text`, `Markup.Place.inner`, `Markup.Place.outer`, `Markup.Place.ownText`,
  `Markup.Place.nextText?` : what can be read at a place.
-/

namespace Extraction.Markup

open Text

/-- A place in a document. -/
inductive Place where
  /-- The root of a document. -/
  | root (document : Document)
  /-- A node inside of another one, with the siblings before it, the nearest first, and those after
  it. -/
  | inside (parent : Place) (before : List Node) (node : Node) (after : List Node)
  deriving Repr

namespace Place

/-- The document of a place. -/
def document : Place → Document
  | .root d => d
  | .inside parent _ _ _ => parent.document

/-- The node at a place. -/
def node : Place → Node
  | .root d => d.root
  | .inside _ _ n _ => n

/-- The tag of the element at a place; the root has one of its own. -/
def tag (p : Place) : Tag :=
  (p.node.tag?).getD { name := "" }

/-- The name of the element at a place. -/
def name (p : Place) : String :=
  p.tag.name

/-- The dialect of the document. -/
def dialect (p : Place) : Dialect :=
  p.document.dialect

/-- The positions by which the root leads to a place, the last one first. -/
def path : Place → List Nat
  | .root _ => []
  | .inside parent before _ _ => before.length :: parent.path

/-- Whether two places of a document are the same. -/
def same (p q : Place) : Bool :=
  p.path == q.path

/-- Whether a place is the root of its document. -/
def isRoot : Place → Bool
  | .root _ => true
  | .inside .. => false

/-- The place of the parent. -/
def parent? : Place → Option Place
  | .root _ => none
  | .inside parent _ _ _ => some parent

/-- The places around a place, from the parent to the root. -/
def ancestors : Place → List Place
  | .root _ => []
  | .inside parent _ _ _ => parent :: parent.ancestors

/-- The siblings before a place, the nearest first. -/
def nodesBefore : Place → List Node
  | .root _ => []
  | .inside _ before _ _ => before

/-- The siblings after a place. -/
def nodesAfter : Place → List Node
  | .root _ => []
  | .inside _ _ _ after => after

/-- Whether a node is an element. -/
def isElement (n : Node) : Bool :=
  n.tag?.isSome

/-- The elements among nodes, as places, where `before` are the nodes before them. -/
def elementsFrom (parent : Place) : List Node → List Node → List Place
  | _, [] => []
  | before, n :: rest =>
    let more := elementsFrom parent (n :: before) rest
    if isElement n then .inside parent before n rest :: more else more

/-- The elements right in a place, in order. -/
def elements (p : Place) : List Place :=
  elementsFrom p [] p.node.children

/-- The elements after a place among its siblings, in order. -/
def later : Place → List Place
  | .root _ => []
  | .inside parent before n after => elementsFrom parent (n :: before) after

/-- The elements among nodes before a place, the nearest first, where `after` are the nodes after
them. -/
def elementsBefore (parent : Place) : List Node → List Node → List Place
  | [], _ => []
  | n :: rest, after =>
    let more := elementsBefore parent rest (n :: after)
    if isElement n then .inside parent rest n after :: more else more

/-- The elements before a place among its siblings, the nearest first. -/
def earlier : Place → List Place
  | .root _ => []
  | .inside parent before n after => elementsBefore parent before (n :: after)

mutual

/-- The elements in a node at a place, in the order of the document. -/
def descendantsIn (here : Place) : Node → List Place
  | .text .. => []
  | .element _ children => descendantsAmong here [] children

/-- The elements among nodes and in them, in the order of the document. -/
def descendantsAmong (parent : Place) (before : List Node) : List Node → List Place
  | [] => []
  | .text kind s :: rest => descendantsAmong parent (.text kind s :: before) rest
  | .element t children :: rest =>
    let n := Node.element t children
    let here := Place.inside parent before n rest
    here :: (descendantsAmong here [] children ++ descendantsAmong parent (n :: before) rest)

end

/-- The elements in a place, in the order of the document. -/
def descendants (p : Place) : List Place :=
  descendantsIn p p.node

/-- The text of a place. -/
def text (p : Place) : List Char :=
  p.node.texts (p.dialect.isTextOf p.name)

/-- The markup inside of a place. -/
def inner (p : Place) : List Char :=
  match p with
  | .root d => d.write
  | .inside _ _ n _ => writeNodes p.dialect p.name n.children

/-- The markup of a place. -/
def outer (p : Place) : List Char :=
  match p with
  | .root d => d.write
  | .inside _ _ n _ => n.write p.dialect ""

/-- The texts right in a place. -/
def ownText (p : Place) : List Char :=
  p.node.children.flatMap fun n => (n.content?).getD []

/-- The first of the texts among nodes that is not blank, without blanks at its ends. -/
def firstText? : List Node → Option (List Char)
  | [] => none
  | n :: rest =>
    match n.content? with
    | some s => if allBlank s then firstText? rest else some (trim s)
    | none => firstText? rest

/-- The first of the texts after a place that is not blank, without blanks at its ends. -/
def nextText? (p : Place) : Option (List Char) :=
  firstText? p.nodesAfter

end Place

end Extraction.Markup
