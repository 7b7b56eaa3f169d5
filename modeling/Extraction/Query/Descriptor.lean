import Extraction.Query.Chain
import Extraction.Query.Shorthand
import Extraction.Query.Attribute
import Extraction.Value

/-!
# Query descriptors

A query is one line: a selector, the attribute to read, and a chain of filters. Square brackets
around the whole ask for every match. Reading a query gives a descriptor, or the cause of its
refusal.

## Main definitions

* `Query.Descriptor` : what a query asks for.
* `Query.Refusal` : why a query is refused, with its wording.
* `Query.Descriptor.read` : the descriptor of a trimmed query.
* `Query.trimmedText` : the trimmed text of a query, if it is one and not too long.
* `Query.Descriptor.quoted` : a descriptor as messages cite it.
-/

namespace Extraction.Query

open Text

/-- What a query asks for. -/
structure Descriptor where
  /-- The selector; without one, the query is about the scope's own node. -/
  selector : Option String := none
  /-- The attribute to read; without one, the query reads the text. -/
  attributeName : Option String := none
  /-- The filters to apply, in order. -/
  filters : List FilterCall := []
  /-- Whether the query asks for every match. -/
  getAll : Bool := false
  deriving DecidableEq, Repr

/-- Why a query is refused. -/
inductive Refusal where
  /-- The query is not a text. -/
  | notText (kind : String)
  /-- The query is blank. -/
  | blank
  /-- The trimmed query has too many characters. -/
  | tooLong (length : Nat)
  /-- There is nothing inside the brackets. -/
  | emptyBrackets
  /-- What follows the at sign is not the name of an attribute. -/
  | badAttribute (name : String)
  deriving DecidableEq, Repr

/-- The greatest number of characters of a trimmed query. -/
def maxLength : Nat := 1000

namespace Refusal

/-- The wording of a refusal. -/
def message : Refusal → String
  | .notText kind => "Query must be a string, got " ++ kind
  | .blank => "Query string cannot be empty"
  | .tooLong _ => "Query string is too long (max " ++ toString maxLength ++ " characters)"
  | .emptyBrackets => "Empty selector inside brackets"
  | .badAttribute name => "Invalid attribute name " ++ Text.quoted name ++ " after '@'"

/-- The entries that a refusal adds to a report. -/
def details : Refusal → Entries
  | .notText _ => [(.text "reason", .text "not_a_string")]
  | .blank => [(.text "reason", .text "empty_query")]
  | .tooLong n => [(.text "reason", .text "too_long"), (.text "length", .int n)]
  | .emptyBrackets => [(.text "reason", .text "empty_brackets")]
  | .badAttribute name => [(.text "attribute", .text name)]

end Refusal

/-- The trimmed text of a query. -/
def trimmedText (query : Value) : Except Refusal String :=
  match query with
  | .text s =>
    let body := trim s.toList
    if body.isEmpty then .error .blank
    else if body.length > maxLength then .error (.tooLong body.length)
    else .ok (String.ofList body)
  | other => .error (.notText other.kind)

/-- Whether a text stands in square brackets: it begins with the opening and ends with the closing
one. -/
def isBracketed (s : List Char) : Bool :=
  s.head? == some '[' && s.getLast? == some ']'

/-- The text between the first and the last character of a text, without blanks at its ends. -/
def insideBrackets (s : List Char) : List Char :=
  trim (s.drop 1).dropLast

namespace Descriptor

/-- The descriptor of a query without brackets around it. -/
def readBody (getAll : Bool) (body : List Char) : Except Refusal Descriptor :=
  let segments := splitFilters body
  let filters := readChain (joinWith ['|'] (segments.drop 1))
  match splitAttribute (expandShorthands (segments.headD [])) with
  | .ok (selector, name) => .ok ⟨selector, name, filters, getAll⟩
  | .error name => .error (.badAttribute name)

/-- The descriptor of a trimmed query. -/
def read (query : List Char) : Except Refusal Descriptor :=
  if isBracketed query then
    let body := insideBrackets query
    if body.isEmpty then .error .emptyBrackets else readBody true body
  else readBody false query

/-- A text that may be missing, as messages cite it. -/
def quotedOption : Option String → String
  | some s => Text.quoted s
  | none => "None"

/-- Several texts in parentheses; one alone has a comma after it. -/
def parenthesized : List String → String
  | [only] => "(" ++ only ++ ",)"
  | parts => "(" ++ ", ".intercalate parts ++ ")"

/-- A filter call as messages cite it. -/
def quotedCall (call : FilterCall) : String :=
  "FilterCall(name=" ++ Text.quoted call.name ++ ", args=" ++
    parenthesized (call.arguments.map Text.quoted) ++ ")"

/-- A descriptor as messages cite it. -/
def quoted (d : Descriptor) : String :=
  "selector=" ++ quotedOption d.selector ++ " attribute=" ++ quotedOption d.attributeName ++
    " filters=" ++ parenthesized (d.filters.map quotedCall) ++ " get_all=" ++
    Value.boolName d.getAll

end Descriptor

end Extraction.Query
