import Extraction.Text.Blank

/-!
# Filter chains

The tail of a query is a chain of filters, each a name and its arguments. A pipe separates filters
unless an equals sign follows it: that pair is an operator of selectors. Blanks around a separating
pipe belong to it. Inside a filter, colons separate the arguments, and an argument that begins with
a quote runs over colons to the next quote of the same kind.

## Main definitions

* `Query.FilterCall` : a filter's name and arguments.
* `Query.splitFilters` : the segments between the separating pipes of a text.
* `Query.splitArguments` : the name and the arguments of a segment.
* `Query.readChain` : the filters of a chain, in order.
-/

namespace Extraction.Query

open Text

/-- One step of a chain: the name of a filter and its arguments as they are written. -/
structure FilterCall where
  /-- The name of the filter. -/
  name : String
  /-- The arguments, in order. -/
  arguments : List String
  deriving DecidableEq, Repr

/-- The pieces of a text between its separating pipes. -/
def pipePieces : List Char → List (List Char)
  | [] => [[]]
  | c :: rest =>
    if c = '|' ∧ rest.head? ≠ some '=' then [] :: pipePieces rest
    else
      match pipePieces rest with
      | [] => [[c]]
      | piece :: more => (c :: piece) :: more

/-- The pieces that follow a separating pipe, without the blanks that belong to the pipes. -/
def trimLater : List (List Char) → List (List Char)
  | [] => []
  | [last] => [trimStart last]
  | piece :: more => trim piece :: trimLater more

/-- The segments of a text between its separating pipes; the blanks on both sides of such a pipe
belong to it. -/
def splitFilters (s : List Char) : List (List Char) :=
  match pipePieces s with
  | [] => []
  | [only] => [only]
  | first :: more => trimEnd first :: trimLater more

/-- The arguments of a segment from a point on: `current` holds the characters of the argument so
far in reverse, and `quote` the quote that it stands in. -/
def splitArgumentsFrom : Option Char → List Char → List Char → List (List Char)
  | _, current, [] => [current.reverse]
  | some q, current, c :: rest =>
    if c = q then splitArgumentsFrom none current rest
    else splitArgumentsFrom (some q) (c :: current) rest
  | none, current, c :: rest =>
    if (c = '\'' || c = '"') && current.isEmpty then splitArgumentsFrom (some c) current rest
    else if c = ':' then current.reverse :: splitArgumentsFrom none [] rest
    else splitArgumentsFrom none (c :: current) rest

/-- The name and the arguments of a segment: its parts between colons outside quotes. A quote opens
only at the start of a part, and is dropped. -/
def splitArguments (s : List Char) : List (List Char) :=
  splitArgumentsFrom none [] s

/-- The filter that a segment calls; a blank segment calls none. -/
def readCall? (segment : List Char) : Option FilterCall :=
  let s := trim segment
  if s.isEmpty then none
  else
    match splitArguments s with
    | [] => none
    | name :: arguments => some ⟨String.ofList (trim name), arguments.map String.ofList⟩

/-- The filters of a chain, in order. -/
def readChain (s : List Char) : List FilterCall :=
  if allBlank s then [] else (splitFilters (trim s)).filterMap readCall?

end Extraction.Query
