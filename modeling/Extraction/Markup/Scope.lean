import Extraction.Engines
import Extraction.Scope

/-!
# Scopes in documents

The places of a document are scopes. Some names of attributes ask for what is at a place and not in
its tag: the text, the markup inside or outside, the texts right in it, and the next text after it.

## Main definitions

* `Markup.Place.extract` : the datum of a place under the name of an attribute.
* `Markup.Place.quoted` : a place as messages cite it.
-/

namespace Extraction.Markup.Place

/-- The value of a text that may be missing. -/
def optionalText (s : Option String) : Value :=
  match s with
  | some s => .text s
  | none => .null

/-- The datum of a place under the name of an attribute; without a name, its text. -/
def extract (p : Place) (name : Option String) : Value :=
  match name.getD "text" with
  | "" | "text" => .text (String.ofList p.text)
  | "html" => .text (String.ofList p.inner)
  | "outerHtml" => .text (String.ofList p.outer)
  | "string" => .text (String.ofList p.ownText)
  | "nextNode" => optionalText (p.nextText?.map String.ofList)
  | name => optionalText (p.tag.get? name)

/-- The places that a selector finds; without a selector, the place itself. -/
def select [Engines] (p : Place) : Option String → Except Selector.Problem (List Place)
  | none => .ok [p]
  | some selector => Engines.select selector.toList p

instance [Engines] : Scope Place Place where
  select := select
  extract := extract
  enter := id

/-- A place as messages cite it. -/
def quoted (p : Place) : String :=
  "SoupScope(<" ++ p.name ++ ">)"

end Extraction.Markup.Place
