import Extraction.Text.Word
import Extraction.Text.Blank
import Extraction.Text.Search

/-!
# Trees of markup

A document is a list of nodes. A node is an element, with attributes and nodes of its own, or a
text of some kind. Two dialects differ in what their names mean: in one, some elements never have
content, some attributes are lists of words, and some elements keep their text for themselves; in
the other, names mean nothing.

## Main definitions

* `Markup.TextKind`, `Markup.Tag`, `Markup.Node`, `Markup.Document` : the parts of a document.
* `Markup.Dialect` : the two dialects, with what they know about names.
* `Markup.Node.texts` : the texts of a node and of all nodes in it, in order.
-/

namespace Extraction.Markup

open Text

/-- What a text in markup is. -/
inductive TextKind where
  | plain
  | script
  | style
  | template
  | ruby
  | rubyParenthesis
  | comment
  | cdata
  | instruction
  | closedInstruction
  | declaration
  | doctype
  deriving DecidableEq, Inhabited, Repr

/-- Whether a text is content, and no aside such as a comment. -/
def TextKind.isContent : TextKind → Bool
  | .plain | .script | .style | .template | .ruby | .rubyParenthesis => true
  | _ => false

/-- An attribute of an element. -/
structure Attribute where
  /-- The whole name. -/
  name : String
  /-- The value. -/
  value : String
  /-- The namespace and the name in it, if the name belongs to one. -/
  space : Option (String × String) := none
  deriving DecidableEq, Repr

/-- The tag of an element. -/
structure Tag where
  /-- The name, without a namespace. -/
  name : String
  /-- What stands before the name and a colon. -/
  qualifier : Option String := none
  /-- The namespace of the name. -/
  space : Option String := none
  /-- The attributes, in order. -/
  attributes : List Attribute := []
  /-- The namespaces that have a qualifier here. -/
  spaces : List (String × String) := []
  deriving DecidableEq, Inhabited, Repr

/-- The value of an attribute. -/
def Tag.get? (t : Tag) (name : String) : Option String :=
  (t.attributes.find? fun a => a.name == name).map Attribute.value

/-- A node of a document. -/
inductive Node where
  /-- A text. -/
  | text (kind : TextKind) (chars : List Char)
  /-- An element. -/
  | element (tag : Tag) (children : List Node)
  deriving Inhabited, Repr

/-- The dialects of markup. -/
inductive Dialect where
  /-- Names are those of hypertext. -/
  | hypertext
  /-- Names mean nothing. -/
  | general
  deriving DecidableEq, Repr

namespace Dialect

/-- The elements of hypertext that never have content. -/
def voidNames : List String :=
  ["area", "base", "br", "col", "embed", "hr", "img", "input", "keygen", "link", "menuitem",
    "meta", "param", "source", "track", "wbr", "basefont", "bgsound", "command", "frame", "image",
    "isindex", "nextid", "spacer"]

/-- Whether an element without content is written as one tag. -/
def mayBeVoid (d : Dialect) (name : String) : Bool :=
  match d with
  | .hypertext => voidNames.contains name
  | .general => true

/-- Whether the text in an element is kept as it is written, blanks included. -/
def keepsBlanks (d : Dialect) (name : String) : Bool :=
  d == .hypertext && (name == "pre" || name == "textarea")

/-- Whether the text right in an element is written without references. -/
def isVerbatim (d : Dialect) (name : String) : Bool :=
  d == .hypertext && (name == "script" || name == "style")

/-- The kind of the texts in an element that keeps them for itself. -/
def ownKind? (d : Dialect) (name : String) : Option TextKind :=
  match d, name with
  | .hypertext, "script" => some .script
  | .hypertext, "style" => some .style
  | .hypertext, "template" => some .template
  | .hypertext, "rt" => some .ruby
  | .hypertext, "rp" => some .rubyParenthesis
  | _, _ => none

/-- Whether a text is part of the text of an element around it: an element that keeps its texts for
itself has only those, and any other has plain texts. -/
def isTextOf (d : Dialect) (name : String) (kind : TextKind) : Bool :=
  match d.ownKind? name with
  | some own => kind == own
  | none => kind == .plain || kind == .cdata

/-- Whether the value of an attribute is a list of words. -/
def isWordList (d : Dialect) (tagName attributeName : String) : Bool :=
  d == .hypertext &&
    (["class", "accesskey", "dropzone"].contains attributeName ||
      (match asciiName tagName with
        | "a" | "link" => attributeName == "rel" || attributeName == "rev"
        | "td" | "th" => attributeName == "headers"
        | "form" => attributeName == "accept-charset"
        | "object" => attributeName == "archive"
        | "area" => attributeName == "rel"
        | "icon" => attributeName == "sizes"
        | "iframe" => attributeName == "sandbox"
        | "output" => attributeName == "for"
        | _ => false))
where
  /-- A name with its ASCII letters lowered. -/
  asciiName (s : String) : String := s.map Char.toLower

/-- The words of a text. -/
def words (s : List Char) : List (List Char) :=
  match _h : s.dropWhile isBlank with
  | [] => []
  | c :: rest =>
    (c :: rest.takeWhile fun d => !isBlank d) :: words (rest.dropWhile fun d => !isBlank d)
termination_by s.length
decreasing_by
  have h1 := (List.dropWhile_suffix isBlank (l := s)).length_le
  have h2 := (List.dropWhile_suffix (fun d => !isBlank d) (l := rest)).length_le
  rw [_h] at h1
  simp only [List.length_cons] at *
  omega

/-- An attribute as it is kept: a list of words has one space between them. -/
def keepAttribute (d : Dialect) (tagName : String) (a : Attribute) : Attribute :=
  if d.isWordList tagName a.name then
    { a with value := String.ofList (joinWith [' '] (words a.value.toList)) }
  else a

end Dialect

/-- A document. -/
structure Document where
  /-- The dialect in which it is written. -/
  dialect : Dialect
  /-- The nodes at the top. -/
  children : List Node
  /-- The namespaces that have a qualifier somewhere in the document. -/
  spaces : List (String × String) := []
  deriving Repr

/-- The name of the root of a document. -/
def rootName : String := "[document]"

/-- A document as a node: its root has no tag in the markup. -/
def Document.root (d : Document) : Node :=
  .element { name := rootName, spaces := d.spaces } d.children

namespace Node

mutual

/-- The texts of a node that satisfy a condition, and of all nodes in it, in order. -/
def texts (keep : TextKind → Bool) : Node → List Char
  | .text kind s => if keep kind then s else []
  | .element _ children => textsOf keep children

/-- The texts of several nodes that satisfy a condition, in order. -/
def textsOf (keep : TextKind → Bool) : List Node → List Char
  | [] => []
  | n :: rest => texts keep n ++ textsOf keep rest

end

/-- The nodes right in a node. -/
def children : Node → List Node
  | .text .. => []
  | .element _ cs => cs

/-- The tag of an element. -/
def tag? : Node → Option Tag
  | .text .. => none
  | .element t _ => some t

/-- The text of content that a node is, if it is one. -/
def content? : Node → Option (List Char)
  | .text kind s => if kind.isContent then some s else none
  | .element .. => none

end Node

end Extraction.Markup
