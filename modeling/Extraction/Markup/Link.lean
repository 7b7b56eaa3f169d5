import Extraction.Markup.Tree
import Extraction.Url

/-!
# Links

Four kinds of elements have an attribute that leads elsewhere. The addresses in these attributes can
be resolved against the address of the document; nothing else in it changes.

## Main definitions

* `Markup.linkAttributes` : the attributes that lead elsewhere, with their elements.
* `Markup.Document.resolveLinks` : a document with its links resolved, and how many there are.
-/

namespace Extraction.Markup

/-- The elements with an attribute that leads elsewhere, in the order in which they are resolved. -/
def linkAttributes : List (String × String) :=
  [("a", "href"), ("img", "src"), ("link", "href"), ("script", "src")]

/-- Attributes with the address of one of a given name resolved, and how many there are. -/
def resolveAttributes (base : List Char) (name : String) :
    List Attribute → Except Fault (List Attribute × Nat)
  | [] => .ok ([], 0)
  | a :: rest => do
    let (more, n) ← resolveAttributes base name rest
    if a.name == name then
      let value ← Url.join base a.value.toList
      return ({ a with value := String.ofList value } :: more, n + 1)
    else return (a :: more, n)

/-- A tag of one kind with its link resolved, and how many links it has. -/
def Tag.resolveLink (base : List Char) (kind attributeName : String) (t : Tag) :
    Except Fault (Tag × Nat) :=
  if t.name == kind then
    (resolveAttributes base attributeName t.attributes).map fun (attributes, n) =>
      ({ t with attributes }, n)
  else .ok (t, 0)

mutual

/-- A node with the links of one kind of elements resolved, and how many there are. -/
def Node.resolveLinks (base : List Char) (kind attributeName : String) :
    Node → Except Fault (Node × Nat)
  | .text k s => .ok (.text k s, 0)
  | .element t children => do
    let (tag, n) ← t.resolveLink base kind attributeName
    let (nodes, m) ← resolveNodeLinks base kind attributeName children
    return (.element tag nodes, n + m)

/-- Several nodes with the links of one kind of elements resolved, and how many there are. -/
def resolveNodeLinks (base : List Char) (kind attributeName : String) :
    List Node → Except Fault (List Node × Nat)
  | [] => .ok ([], 0)
  | first :: rest => do
    let (node, n) ← first.resolveLinks base kind attributeName
    let (nodes, m) ← resolveNodeLinks base kind attributeName rest
    return (node :: nodes, n + m)

end

/-- Nodes with the links of several kinds of elements resolved, one kind after another, and how many
there are. -/
def resolveKinds (base : List Char) :
    List (String × String) → List Node → Except Fault (List Node × Nat)
  | [], nodes => .ok (nodes, 0)
  | (kind, attributeName) :: rest, nodes => do
    let (nodes, n) ← resolveNodeLinks base kind attributeName nodes
    let (nodes, m) ← resolveKinds base rest nodes
    return (nodes, n + m)

/-- A document with its links resolved against a base, and how many there are. -/
def Document.resolveLinks (d : Document) (base : List Char) : Except Fault (Document × Nat) := do
  let (children, n) ← resolveKinds base linkAttributes d.children
  return ({ d with children }, n)

end Extraction.Markup
