import Extraction.Text.Blank
import Extraction.Text.Word

/-!
# The attribute suffix of a query

A query may end its selector with an at sign and the name of an attribute. The sign that counts is
the last one outside brackets, parentheses and quotes. The scan keeps the depth of open brackets,
which never falls below zero, and the quote that it stands in.

## Main definitions

* `Query.Depth` : the state of the scan.
* `Query.Depth.step` : the state after one more character.
* `Query.findMarker` : the position of the last at sign at depth zero outside quotes.
* `Query.isAttributeName` : whether a text is the name of an attribute.
-/

namespace Extraction.Query

open Text

/-- Where a scan of a selector stands: how many brackets and parentheses are open, and in which
quote it is. -/
structure Depth where
  /-- The number of open brackets and parentheses. -/
  depth : Nat
  /-- The quote that is open. -/
  quote : Option Char
  deriving DecidableEq, Repr

namespace Depth

/-- Outside of all brackets and quotes. -/
def ground : Depth := ⟨0, none⟩

/-- The state after one more character. A closing bracket with none open changes nothing. -/
def step (d : Depth) (c : Char) : Depth :=
  match d.quote with
  | some q => if c = q then ⟨d.depth, none⟩ else d
  | none =>
    if c = '\'' || c = '"' then ⟨d.depth, some c⟩
    else if c = '[' || c = '(' then ⟨d.depth + 1, none⟩
    else if c = ')' || c = ']' then ⟨d.depth - 1, none⟩
    else d

/-- The state after a text. -/
def after (d : Depth) (s : List Char) : Depth :=
  s.foldl step d

end Depth

/-- The position of the last at sign that is outside brackets, parentheses and quotes, counting
from the start of a text that the scan enters in the given state. -/
def findMarkerFrom (d : Depth) : List Char → Option Nat
  | [] => none
  | c :: rest =>
    match findMarkerFrom (d.step c) rest with
    | some n => some (n + 1)
    | none => if c = '@' ∧ d = Depth.ground then some 0 else none

/-- The position of the last at sign that is outside brackets, parentheses and quotes. -/
def findMarker (s : List Char) : Option Nat :=
  findMarkerFrom Depth.ground s

/-- Whether a character may stand in the name of an attribute. -/
def isAttributeChar (c : Char) : Bool :=
  isWord c || c = '-' || c = ':'

/-- Whether a text is the name of an attribute. -/
def isAttributeName (s : List Char) : Bool :=
  !s.isEmpty && s.all isAttributeChar

/-- A text, or nothing if it is empty. -/
def nonempty? (s : List Char) : Option String :=
  if s.isEmpty then none else some (String.ofList s)

/-- The selector and the attribute of the head of a query; a malformed attribute is the error. -/
def splitAttribute (s : List Char) : Except String (Option String × Option String) :=
  match findMarker s with
  | none => .ok (nonempty? (trim s), none)
  | some n =>
    let name := trim (s.drop (n + 1))
    if isAttributeName name then .ok (nonempty? (trim (s.take n)), some (String.ofList name))
    else .error (String.ofList name)

end Extraction.Query
