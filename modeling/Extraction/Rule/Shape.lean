import Extraction.Value

/-!
# The shapes of rules

A rule is a value. A text is a query, a map gives a result to each of its keys, a function stands
for its own result. A list whose second item is no function is divided: its first item is a query
that selects nodes, and the rest is a rule for each of them. Any other list is a pipeline: its
first item is a rule, and the functions after it change the result one after another. Only the
outermost level is looked at.

## Main definitions

* `Rule.Shape` : the five shapes.
* `Rule.Problem` : why a value has no shape, with its wording.
* `Rule.Arrangement`, `Rule.arrangement` : whether a list is divided or a pipeline.
* `Rule.shape` : the shape of a value.
-/

namespace Extraction.Rule

/-- Why a value is no rule. -/
inductive Problem where
  /-- There is no rule. -/
  | missing
  /-- The rule is a list without items. -/
  | empty
  /-- The first item of a divided list is not a text. -/
  | divider (kind : String)
  /-- A step of a pipeline is no function. -/
  | step (position : Nat) (kind : String)
  /-- The value is of a kind that means nothing. -/
  | unsupported (kind : String)
  deriving DecidableEq, Repr

/-- The wording of a problem. -/
def Problem.message : Problem → String
  | .missing => "Parse rule cannot be None"
  | .empty => "Array rule cannot be empty"
  | .divider kind => "Divider must be a query string, got " ++ kind
  | .step position kind =>
    "Pipeline step " ++ toString position ++ " must be callable, got " ++ kind
  | .unsupported kind =>
    "Unsupported rule type " ++ kind ++ "; expected str, callable, mapping or list"

/-- What the items of a list after the first are. -/
inductive Arrangement where
  /-- The first item is a query, and the rest is a rule for every node that it selects. -/
  | divided (query : String)
  /-- The rest are functions that change the result of the first item. -/
  | pipeline
  deriving DecidableEq, Repr

/-- The first item that is no function, with its position counted from a given one. -/
def firstNonFunction? : Nat → List Value → Option (Nat × Value)
  | _, [] => none
  | n, v :: rest => if v.isFunction then firstNonFunction? (n + 1) rest else some (n, v)

/-- What the items of a list with a given first one are. -/
def arrangement (lead : Value) (rest : List Value) : Except Problem Arrangement :=
  match rest with
  | [] => .ok .pipeline
  | second :: _ =>
    if second.isFunction then
      match firstNonFunction? 1 rest with
      | none => .ok .pipeline
      | some (position, v) => .error (.step position v.kind)
    else
      match lead with
      | .text query => .ok (.divided query)
      | other => .error (.divider other.kind)

/-- The shape of a rule. -/
inductive Shape where
  /-- A query. -/
  | literal (query : String)
  /-- A function that gives the result. -/
  | computed (function : Value)
  /-- A rule for every key. -/
  | fields (entries : Entries)
  /-- A rule for the nodes that a query selects. -/
  | divided (query : String) (rest : List Value)
  /-- A rule and the functions that change its result. -/
  | pipeline (lead : Value) (functions : List Value)
  deriving Repr

/-- The shape of a list. -/
def listShape : List Value → Except Problem Shape
  | [] => .error .empty
  | lead :: rest =>
    (arrangement lead rest).map fun
      | .divided query => .divided query rest
      | .pipeline => .pipeline lead rest

/-- The shape of a value as a rule. -/
def shape : Value → Except Problem Shape
  | .null => .error .missing
  | .text query => .ok (.literal query)
  | .map entries => .ok (.fields entries)
  | .list items | .tuple items => listShape items
  | .function name captured => .ok (.computed (.function name captured))
  | other => .error (.unsupported other.kind)

end Extraction.Rule
