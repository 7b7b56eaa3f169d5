import Extraction.Calendar.Loose
import Extraction.Markup.Builder
import Extraction.Selector.Matching

/-!
# Engines

Three kinds of engines are asked for what this library does not decide: tree builders for the
document of markup, a search for the elements that a selector means, and a reader for the dates that
are written in no fixed notation. An engine answers, or it breaks off with a fault. All that is
evaluated, loaded or run depends on the engines by their answers alone, and is stated for any
engines; where none are named, the usual ones are meant.

## Main definitions

* `Engines` : what the engines answer.
* `usualEngines` : the tree builders, the search and the reader of dates of this library.
-/

namespace Extraction

/-- What the engines answer. -/
class Engines where
  /-- The document that a tree builder makes from a text. -/
  build : Markup.Builder → List Char → Except Fault Markup.Document
  /-- The document that a tree builder makes from bytes. -/
  buildBytes : Markup.Builder → List UInt8 → Except Fault Markup.Document
  /-- The elements in a place that a selector means. -/
  select : List Char → Markup.Place → Except Selector.Problem (List Markup.Place)
  /-- The moment that a text names, if it names one. -/
  readDate : List Char → Reading Moment

/-- The engines of this library. -/
instance usualEngines : Engines where
  build := Markup.Builder.read
  buildBytes := Markup.Builder.readBytes
  select := Selector.select
  readDate := Calendar.readLoose

end Extraction
