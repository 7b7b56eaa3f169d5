import Extraction.Markup.Place
import Extraction.Text.Case

/-!
# The context of a search

What a selector asks of an element depends on where the search began and on the dialect of the
document. Names of hypertext are compared without the case of ASCII letters, and other names
exactly.

## Main definitions

* `Selector.Context` : where the search began, and what qualifiers of namespaces mean.
* `Selector.attributeOf?` : the value of an attribute.
* `Selector.isHypertextElement`, `Selector.isFrame` : whether an element is one of hypertext, and
  whether it is a frame.
-/

namespace Extraction.Selector

open Text Markup

/-- The namespace of hypertext. -/
def hypertextSpace : String := "http://www.w3.org/1999/xhtml"

/-- Where a search began, and what qualifiers mean. -/
structure Context where
  /-- The place in which the search began; it is the first element of the document if the search
  began at the root. -/
  scope : Option Place
  /-- The first element of the document. -/
  top : Option Place
  /-- What qualifiers mean. -/
  spaces : List (String × String)
  /-- The dialect of the document. -/
  dialect : Dialect

namespace Context

/-- The context of a search. -/
def ofPlace (p : Place) : Context :=
  let top := (Place.root p.document).elements.head?
  { scope := if p.isRoot then top else some p
    top
    spaces := p.tag.spaces
    dialect := p.dialect }

/-- Whether elements of the document have namespaces. -/
def hasSpaces (c : Context) : Bool :=
  c.dialect == .general || c.top.any fun p => p.tag.space == some hypertextSpace

/-- Whether the document is hypertext. -/
def isHypertext (c : Context) : Bool :=
  c.dialect == .hypertext || c.top.any fun p => p.tag.space == some hypertextSpace

/-- The namespace of an element: without namespaces, all elements are of hypertext. -/
def spaceOf (c : Context) (t : Tag) : String :=
  if c.hasSpaces then t.space.getD "" else hypertextSpace

/-- A name as it is compared. -/
def nameKey (c : Context) (s : String) : String :=
  if c.dialect == .general then s else asciiLowerString s

end Context

/-- The value of an attribute of a given lowered name. -/
def attributeOf? (c : Context) (t : Tag) (name : String) : Option String :=
  (t.attributes.find? fun a =>
    (if c.dialect == .general then a.name else asciiLowerString a.name) == name).map
      Attribute.value

/-- Whether an element has a name, as names of the document are compared. -/
def isNamed (c : Context) (p : Place) (name : String) : Bool :=
  c.nameKey p.name == name

/-- Whether an element is one of hypertext. -/
def isHypertextElement (c : Context) (p : Place) : Bool :=
  c.isHypertext && c.spaceOf p.tag == hypertextSpace

/-- Whether an element is a frame of hypertext: what is in it belongs to another document. -/
def isFrame (c : Context) (t : Tag) : Bool :=
  c.isHypertext && c.nameKey t.name == "iframe" && c.spaceOf t == hypertextSpace

/-- Whether an element stands first in its document, or right in a frame. -/
def isFirst (c : Context) (p : Place) : Bool :=
  c.top.any (·.same p) || (p.parent?).any fun q => isFrame c q.tag

end Extraction.Selector
