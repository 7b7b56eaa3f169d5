import Extraction.Selector.Problem
import Extraction.Text.Direction

/-!
# Selectors

A selector is a list of alternatives. An alternative is a list of conditions on an element, and
perhaps a relation to another element for which an alternative holds in turn. Relations lead to
what is before or around an element, and in conditions on what an element has, to what is after or
inside it.

## Main definitions

* `Selector.Relation` : how two elements lie to each other.
* `Selector.AttributeTest` : a condition on the value of an attribute.
* `Selector.Step` : every how many-th sibling is meant.
* `Selector.Condition`, `Selector.Alternative` : the parts of a selector.
-/

namespace Extraction.Selector

/-- How two elements lie to each other. -/
inductive Relation where
  | ancestor
  | parent
  | earlierSibling
  | previousSibling
  | descendant
  | child
  | laterSibling
  | nextSibling
  deriving DecidableEq, Repr

/-- A condition on the value of an attribute. -/
inductive AttributeTest where
  /-- The attribute is present. -/
  | present
  /-- The value is a given one. -/
  | equals (value : List Char)
  /-- The value begins with a given one. -/
  | begins (value : List Char)
  /-- The value ends with a given one. -/
  | ends (value : List Char)
  /-- The value has a given one as a part. -/
  | contains (value : List Char)
  /-- The value has a given one as one of its words. -/
  | word (value : List Char)
  /-- The value is a given one, or begins with it and a hyphen. -/
  | dashed (value : List Char)
  deriving DecidableEq, Repr

/-- How the values of attributes are compared. -/
inductive Casing where
  /-- As they are. -/
  | exact
  /-- Without case. -/
  | folded
  /-- Without case where names are those of hypertext. -/
  | dialect
  deriving DecidableEq, Repr

/-- Every how many-th sibling is meant: those with the number `factor * n + offset` for a natural
number `n`. -/
structure Step where
  /-- The factor. -/
  factor : Int
  /-- The offset. -/
  offset : Int
  deriving DecidableEq, Repr

/-- Whether a number belongs to a step. -/
def Step.holds (s : Step) (number : Nat) : Bool :=
  let rest : Int := number - s.offset
  if s.factor = 0 then rest = 0
  else rest % s.factor = 0 && 0 ≤ rest / s.factor

mutual

/-- A condition on an element. -/
inductive Condition where
  /-- The name, and the qualifier of its namespace if one is asked for. -/
  | name (qualifier : Option String) (name : String)
  /-- The identifier. -/
  | id (value : String)
  /-- One of the class names. -/
  | className (value : String)
  /-- An attribute, with the qualifier of its namespace. -/
  | hasAttribute (qualifier : String) (name : String) (test : AttributeTest) (casing : Casing)
  /-- The element is the only one at the top of the document. -/
  | root
  /-- The element is the one in which the search began. -/
  | scope
  /-- The element has neither elements nor texts that are not blank. -/
  | empty
  /-- The number among the siblings for which some alternative holds, counted from the first or the
  last one; no alternative at all asks nothing. -/
  | nth (step : Step) (fromLast : Bool) (among : List Alternative)
  /-- The number among the siblings of the same name. -/
  | nthOfType (step : Step) (fromLast : Bool)
  /-- Some alternative holds. -/
  | anyOf (alternatives : List Alternative)
  /-- No alternative holds. -/
  | noneOf (alternatives : List Alternative)
  /-- Some alternative holds, in hypertext. -/
  | inHypertext (alternatives : List Alternative)
  /-- The text has one of several parts; only the texts right in the element count if `own` is
  set. -/
  | contains (own : Bool) (parts : List String)
  /-- The language is in one of several ranges. -/
  | language (ranges : List String)
  /-- The text of the element is written in a direction. -/
  | direction (d : Text.Direction)
  /-- The name is not one that a writer has made up. -/
  | defined
  /-- The element is the first one that sends its form. -/
  | formDefault
  /-- No button of the group of the element is pressed. -/
  | undecided
  /-- The value lies within its bounds, or else outside of them. -/
  | bounded (within : Bool)
  /-- The element has no text but perhaps a line break. -/
  | unfilled

/-- Conditions on an element, and perhaps on one that lies to it in some way; `void` holds for no
element. -/
inductive Alternative where
  | void
  | all (conditions : List Condition)
  | related (conditions : List Condition) (relation : Relation) (other : Alternative)

end

deriving instance Repr for Condition, Alternative

instance : Inhabited Alternative := ⟨.void⟩

end Extraction.Selector
