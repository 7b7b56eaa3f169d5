import Extraction.Markup.Bytes
import Extraction.Markup.General
import Extraction.Markup.Lenient
import Extraction.Markup.Mending
import Extraction.Markup.Standard.Reader

/-!
# Tree builders

A tree builder makes a document from markup. There are four of them, under five names.

## Main definitions

* `Markup.Builder` : the tree builders.
* `Markup.Builder.ofName?`, `Markup.Builder.names` : their names.
* `Markup.Builder.read` : the document of a text, or the fault.
* `Markup.Builder.readBytes` : the document of bytes, or the fault.
-/

namespace Extraction.Markup

/-- The tree builders. -/
inductive Builder where
  /-- Hypertext is read as browsers read it. -/
  | standard
  /-- Hypertext is read with its usual mistakes mended. -/
  | mending
  /-- Hypertext is read as it comes. -/
  | lenient
  /-- Markup of the general dialect is read. -/
  | general
  deriving DecidableEq, Repr

namespace Builder

/-- The builders by their names. -/
def named : List (String × Builder) :=
  [("html5lib", .standard), ("lxml", .mending), ("html.parser", .lenient), ("xml", .general),
    ("lxml-xml", .general)]

/-- The names of the builders. -/
def names : List String :=
  named.map Prod.fst

/-- The name of the builder that is used unless another one is named. -/
def usual : String := "html5lib"

/-- The builder of a name. -/
def ofName? (name : String) : Option Builder :=
  named.lookup name

/-- The document of a text. The builders that read decimal numbers as integers are read, and the one
that knows marked sections by their names, may end in a fault. -/
def read (b : Builder) (s : List Char) : Except Fault Document :=
  match b with
  | .standard => Standard.document s
  | .mending => .ok (Mending.document s)
  | .lenient => do return ⟨.hypertext, treeOf .hypertext (← Lenient.events s), []⟩
  | .general => .ok (General.document s)

/-- The text of bytes, as a builder reads them. -/
def textOf (b : Builder) (bs : List UInt8) : List Char :=
  match b with
  | .standard => browserText bs
  | .mending | .lenient => triedText true bs
  | .general => triedText false bs

/-- The document of bytes. -/
def readBytes (b : Builder) (bs : List UInt8) : Except Fault Document :=
  b.read (b.textOf bs)

end Builder

end Extraction.Markup
