import Extraction.Markup.Tree

/-!
# Growing trees whose nodes can move

While hypertext is read, nodes are moved to other places, so elements are known by numbers. The
element of number zero is the root of the document.

## Main definitions

* `Markup.Standard.Forest` : the elements by their numbers.
* `Markup.Standard.Forest.create`, `Markup.Standard.Forest.append`,
  `Markup.Standard.Forest.insertBefore`, `Markup.Standard.Forest.detach` : its operations.
* `Markup.Standard.Forest.nodes` : the nodes that have grown.
-/

namespace Extraction.Markup.Standard

/-- What an element holds. -/
inductive Part where
  /-- A text of content. -/
  | text (s : List Char)
  /-- A text that is no content. -/
  | aside (kind : TextKind) (s : List Char)
  /-- An element. -/
  | element (number : Nat)
  deriving Repr, DecidableEq

/-- An element. -/
structure Entry where
  /-- The tag. -/
  tag : Tag
  /-- The element in which it is. -/
  parent : Option Nat := none
  /-- What it holds, the last part first. -/
  parts : List Part := []
  deriving Repr, Inhabited

/-- The elements by their numbers. -/
structure Forest where
  /-- The elements. -/
  entries : Array Entry := #[{ tag := { name := rootName } }]
  deriving Repr

namespace Forest

/-- The element of a number. -/
def entry (f : Forest) (n : Nat) : Entry :=
  f.entries.getD n { tag := { name := "" } }

/-- The tag of an element. -/
def tag (f : Forest) (n : Nat) : Tag :=
  (f.entry n).tag

/-- The name of an element. -/
def name (f : Forest) (n : Nat) : String :=
  (f.tag n).name

/-- An element changed. -/
def update (f : Forest) (n : Nat) (g : Entry → Entry) : Forest :=
  { f with entries := f.entries.modify n g }

/-- A new element that is nowhere yet, and its number. -/
def create (f : Forest) (t : Tag) : Nat × Forest :=
  (f.entries.size, { f with entries := f.entries.push { tag := t } })

/-- An element taken out of the element in which it is. -/
def detach (f : Forest) (n : Nat) : Forest :=
  match (f.entry n).parent with
  | none => f
  | some p =>
    (f.update p fun e => { e with parts := e.parts.filter (· != .element n) }).update n fun e =>
      { e with parent := none }

/-- A part as the last one of an element. A text is joined to a text before it. -/
def appendPart (f : Forest) (parent : Nat) (part : Part) : Forest :=
  f.update parent fun e =>
    match part, e.parts with
    | .text s, .text t :: rest => { e with parts := .text (t ++ s) :: rest }
    | part, parts => { e with parts := part :: parts }

/-- An element as the last part of another one. -/
def append (f : Forest) (parent n : Nat) : Forest :=
  ((f.detach n).appendPart parent (.element n)).update n fun e => { e with parent := some parent }

/-- Parts with one more before an element, the last one first. A text is joined to a text before
it. -/
def putBefore (part : Part) (mark : Nat) : List Part → List Part
  | [] => [part]
  | p :: rest =>
    if p == .element mark then
      match part, rest with
      | .text s, .text t :: more => p :: .text (t ++ s) :: more
      | part, rest => p :: part :: rest
    else p :: putBefore part mark rest

/-- A part of an element before another part of it, which is an element. -/
def insertPart (f : Forest) (parent : Nat) (part : Part) (mark : Nat) : Forest :=
  f.update parent fun e => { e with parts := putBefore part mark e.parts }

/-- An element before another one in the same parent. -/
def insertBefore (f : Forest) (parent n mark : Nat) : Forest :=
  ((f.detach n).insertPart parent (.element n) mark).update n fun e =>
    { e with parent := some parent }

/-- All parts of an element moved to the end of another one. -/
def moveParts (f : Forest) (source target : Nat) : Forest :=
  let parts := (f.entry source).parts
  let f := f.update source fun e => { e with parts := [] }
  let f := f.update target fun e => { e with parts := parts ++ e.parts }
  parts.foldl (fun f p =>
    match p with
    | .element n => f.update n fun e => { e with parent := some target }
    | _ => f) f

/-- Parts, the last one first, as nodes before others: `depth` bounds how deep elements are in each
other. -/
def nodesOf (f : Forest) (depth : Nat) (parts : List Part) (after : List Node) : List Node :=
  match parts with
  | [] => after
  | .text s :: rest => nodesOf f depth rest (.text .plain s :: after)
  | .aside kind s :: rest => nodesOf f depth rest (.text kind s :: after)
  | .element n :: rest =>
    let inside :=
      match depth with
      | 0 => []
      | depth + 1 => nodesOf f depth (f.entry n).parts []
    nodesOf f depth rest (.element (f.tag n) inside :: after)
termination_by (depth, parts.length)

/-- The nodes that have grown. -/
def nodes (f : Forest) : List Node :=
  nodesOf f f.entries.size (f.entry 0).parts []

end Forest

end Extraction.Markup.Standard
