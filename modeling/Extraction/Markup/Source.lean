import Extraction.Evaluation
import Extraction.Markup.Link
import Extraction.Markup.Scope

/-!
# Sources of documents

A source is what a document is made from: the markup, the name of the tree builder that reads it,
and the address against which its links are resolved. The markup must be there and the name must be
that of a builder; if both are wrong, the missing markup is what is reported.

## Main definitions

* `Markup.Source` : what a document is made from.
* `Markup.Source.load` : the root of the document.
-/

namespace Extraction.Markup

/-- What a document is made from. -/
structure Source where
  /-- The markup: a text or bytes. -/
  markup : Value
  /-- The name of the tree builder. -/
  builder : Value := .text Builder.usual
  /-- The address of the document. -/
  base : Option String := none
  /-- Whether links stay as they are written. -/
  keepsLinks : Bool := false
  deriving Repr

namespace Source

/-- The tree builder of a name. -/
def builderOf (name : Value) : Evaluation Builder :=
  match name with
  | .text s =>
    match Builder.ofName? s with
    | some b => return b
    | none => throw (.misuse (.treeBuilder name.quoted Builder.names) name)
  | _ => throw (.misuse (.treeBuilder name.quoted Builder.names) name)

/-- The document that a builder makes from markup. Only a text or bytes are markup. -/
def documentOf [Engines] (b : Builder) (markup : Value) : Evaluation Document :=
  match markup with
  | .text s => Evaluation.ofExcept (Engines.build b s.toList)
  | .bytes bs => Evaluation.ofExcept (Engines.buildBytes b bs)
  | other => throw (.fault (.noLength other.kind))

/-- The document with its links resolved, if there is an address to resolve them against. -/
def withLinks (s : Source) (d : Document) : Evaluation Document :=
  match s.base with
  | some base =>
    if base.isEmpty || s.keepsLinks then return d
    else
      match d.resolveLinks base.toList with
      | .ok (d, count) => do
        Evaluation.note [.linksResolved count base]
        return d
      | .error f => throw (.fault f)
  | none => return d

/-- The root of the document that is made from a source. -/
def load [Engines] (s : Source) : Evaluation Place :=
  match s.markup with
  | .null => throw (.misuse .markup .null)
  | markup => do
    let b ← builderOf s.builder
    let d ← documentOf b markup
    return .root (← s.withLinks d)

end Source

end Extraction.Markup
