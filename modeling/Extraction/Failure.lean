import Extraction.Notice
import Extraction.Rule.Shape
import Extraction.Value.Plain

/-!
# Failures of an evaluation

An evaluation that gives no value fails with a cause. Most causes are described by a report for
the outside, which names the kind of the failure, its wording and the data that go with it; a
fault of a function or an engine outside of a filter is passed on as it is.

## Main definitions

* `Misuse` : why a document, a scope or a rule is unusable.
* `Failure` : why an evaluation gives no value.
* `Report` : a failure as the outside sees it, with `Report.response`, its form as a value, and
  `Report.respond`, which gives this form unless something in it cannot be quoted.
* `Failure.describe` : the report of a failure.
* `Value.printable` : a value with everything but scalars and lists replaced by its quotation, and
  `Value.printFault?`, why there is no such quotation.
-/

namespace Extraction

namespace Value

mutual

/-- A value with everything but scalars and lists replaced by its quotation. -/
def printable : Value → Value
  | .null => .null
  | .bool b => .bool b
  | .int n => .int n
  | .float x => .float x
  | .text s => .text s
  | .list items => .list (printableItems items)
  | .tuple items => .list (printableItems items)
  | other => .text other.quoted

/-- The items of a list, each printable. -/
def printableItems : List Value → List Value
  | [] => []
  | v :: rest => printable v :: printableItems rest

end

mutual

/-- Why a value cannot be made printable, if it cannot: something that is to be replaced by its
quotation cannot be cited. -/
def printFault? : Value → Option Fault
  | .null | .bool _ | .int _ | .float _ | .text _ => none
  | .list items => itemsPrintFault? items
  | .tuple items => itemsPrintFault? items
  | other => other.quoteFault?

/-- Why the items of a list cannot be made printable, if they cannot. -/
def itemsPrintFault? : List Value → Option Fault
  | [] => none
  | v :: rest => (printFault? v).orElse fun _ => itemsPrintFault? rest

end

end Value

/-- A failure as the outside sees it. -/
structure Report where
  /-- The name of the kind of failure. -/
  kind : String
  /-- The wording. -/
  message : String
  /-- The data that every failure of the kind carries. -/
  subject : List (String × Value)
  /-- More data, which may replace those of the subject. -/
  extra : Entries
  deriving Repr

namespace Report

/-- A failure of no particular kind. -/
def general (message : String) (extra : Entries) : Report :=
  ⟨"HTMLQueryError", message, [], extra⟩

/-- An unusable document, scope or rule. -/
def validation (message : String) (field value : Value) (extra : Entries) : Report :=
  ⟨"ValidationError", message, [("field", field), ("value", value)], extra⟩

/-- A query that cannot be read. -/
def queryParse (message : String) (query : Value) (extra : Entries) : Report :=
  ⟨"QueryParseError", message, [("query", query)], extra⟩

/-- A filter that is unknown or has failed. -/
def filter (message : String) (name value query : Value) (extra : Entries) : Report :=
  ⟨"FilterError", message, [("filter_name", name), ("value", value), ("query", query)], extra⟩

/-- A selector that is refused. -/
def selector (message : String) (selector : Value) (extra : Entries) : Report :=
  ⟨"SelectorError", message, [("selector", selector)], extra⟩

/-- The data of a report. -/
def details (r : Report) : Entries :=
  Entries.union (r.subject.map fun (k, v) => (.text k, v)) r.extra

/-- The data of a report with all values printable. -/
def printableDetails (r : Report) : Entries :=
  r.details.map fun (k, v) => (k, v.printable)

/-- A report as a value. -/
def response (r : Report) : Value :=
  .map [(.text "error", .text r.kind), (.text "message", .text r.message),
    (.text "details", .map r.printableDetails)]

/-- The form of a report as a value, or the fault of quoting the data in it. -/
def respond (r : Report) : Except Fault Value :=
  match Value.itemsPrintFault? (r.details.map Prod.snd) with
  | some f => .error f
  | none => .ok r.response

end Report

/-- Why a document, a scope or a rule is unusable. -/
inductive Misuse where
  /-- The rule has no shape. -/
  | rule (problem : Rule.Problem)
  /-- The value is no scope. -/
  | scope (kind : String)
  /-- The root of a scope is no node. -/
  | root (kind : String)
  /-- There is no markup. -/
  | markup
  /-- No tree builder has the name, which is cited here. -/
  | treeBuilder (name : String) (supported : List String)
  deriving DecidableEq, Repr

namespace Misuse

/-- The wording of a misuse. -/
def message : Misuse → String
  | .rule problem => problem.message
  | .scope kind => "Scope must be a BaseScope or BeautifulSoup Tag, got " ++ kind
  | .root kind => "Scope root must be a BeautifulSoup Tag, got " ++ kind
  | .markup => "Document markup is required"
  | .treeBuilder name supported =>
    "Unsupported parser " ++ name ++ "; use one of " ++ ", ".intercalate supported

/-- The name of the input that is misused. -/
def field : Misuse → String
  | .rule _ => "rule"
  | .scope _ | .root _ => "scope"
  | .markup => "html"
  | .treeBuilder .. => "parser"

end Misuse

/-- Why an evaluation gives no value. -/
inductive Failure where
  /-- An input is unusable. -/
  | misuse (cause : Misuse) (value : Value)
  /-- A query cannot be read. -/
  | refused (cause : Query.Refusal) (query : Value)
  /-- A query names a filter that is not in the registry. -/
  | unknownFilter (name : String) (known : List String) (value : Value) (query : String)
  /-- A filter has failed. -/
  | filterFailed (name : String) (value : Value) (query : String) (fault : Fault)
  /-- A selector is refused. -/
  | badSelector (selector reason : String)
  /-- A function or an engine has failed outside of a filter. -/
  | fault (f : Fault)
  deriving Repr

namespace Failure

/-- A value that is no scope is given as one. -/
def badScope (v : Value) : Failure :=
  .misuse (.scope v.kind) v

/-- A value that is no node is given as the root of a scope. -/
def badRoot (v : Value) : Failure :=
  .misuse (.root v.kind) v

/-- The wording of an unknown filter. -/
def unknownFilterMessage (name : String) (known : List String) : String :=
  "Unknown filter: " ++ name ++ ". Available filters: " ++ ", ".intercalate known

/-- The wording of a failed filter. -/
def filterFailedMessage (name query : String) (fault : Fault) : String :=
  "Parse error in query \"" ++ query ++ "\" with filter \"" ++ name ++ "\": " ++ fault.message

/-- The report of a failure, with the reason of an engine, if there is one, in given words; a fault
has none. -/
def describe (explain : String → String) : Failure → Except Fault Report
  | .misuse cause value => .ok (.validation cause.message (.text cause.field) value [])
  | .refused cause query => .ok (.queryParse cause.message query cause.details)
  | .unknownFilter name known value query =>
    .ok (.filter (unknownFilterMessage name known) (.text name) value (.text query) [])
  | .filterFailed name value query f =>
    .ok (.filter (filterFailedMessage name query f) (.text name) value (.text query) [])
  | .badSelector selector reason =>
    .ok (.selector ("Invalid selector " ++ Text.quoted selector ++ ": " ++ explain reason)
      (.text selector) [])
  | .fault f => .error f

/-- The failure of a selection. -/
def ofSelector (selector : String) : Selector.Problem → Failure
  | .malformed reason => .badSelector selector reason
  | .fault f => .fault f

end Failure

end Extraction
