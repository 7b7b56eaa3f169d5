import Extraction.Failure
import Extraction.Filter.Registry
import Extraction.Query.Cache
import Extraction.Scope

/-!
# Evaluating rules

A rule is evaluated against a scope and gives a value of the rule's own form: a query gives what it
selects, a map gives a map with the same keys, a divided list gives one result per selected node or
that of the first, and a pipeline passes a result through functions. Descriptors of queries are
taken from a store and kept in it. A selection that finds nothing is no failure; a malformed rule
or query, an unknown filter and a filter that fails end the whole evaluation.

## Main definitions

* `Trace` : the store of descriptors and the notices so far.
* `Evaluation` : computations that may fail and leave a trace.
* `Query.parse` : the descriptor of a query, by way of the store.
* `Evaluator` : the filters and the functions that rules may call.
* `Evaluator.evaluate` : the value of a rule in a scope.
-/

namespace Extraction

/-- What an evaluation leaves behind. -/
structure Trace where
  /-- The store of descriptors. -/
  cache : Query.Cache := {}
  /-- The notices, in order. -/
  notices : List Notice := []
  deriving Repr

/-- A computation that may fail and leaves a trace. -/
abbrev Evaluation := ExceptT Failure (StateM Trace)

namespace Evaluation

/-- A computation that leaves notices. -/
def note (ns : List Notice) : Evaluation Unit :=
  modify fun t => { t with notices := t.notices ++ ns }

/-- What a function or an engine gives, as a computation. -/
def ofExcept {α : Type} : Except Fault α → Evaluation α
  | .ok a => return a
  | .error f => throw (.fault f)

/-- The result and the trace of a computation that begins with a trace. -/
def runFrom {α : Type} (t : Trace) (e : Evaluation α) : Except Failure α × Trace :=
  StateT.run (ExceptT.run e) t

end Evaluation

namespace Query

/-- The error that a query reports: the query as it was given if it was refused before its text was
read, and else the trimmed text. -/
def refusal (query : Value) (text : String) : Refusal → Failure
  | cause@(.emptyBrackets) | cause@(.badAttribute _) => .refused cause (.text text)
  | cause => .refused cause query

/-- The descriptor of a query: the one in the store if there is one, and else a new one, which is
put into the store. -/
def parse (query : Value) : Evaluation Descriptor := do
  match trimmedText query with
  | .error cause => throw (refusal query "" cause)
  | .ok text =>
    match (← get).cache.get? text with
    | some d => return d
    | none =>
      Evaluation.note [.cacheMiss text]
      match Descriptor.read text.toList with
      | .error cause => throw (refusal query text cause)
      | .ok d =>
        Evaluation.note [.queryRead text d]
        modify fun t => { t with cache := (t.cache.put text d).2 }
        return d

end Query

/-- The meaning of references to functions: what a function gives for arguments. -/
abbrev Interpreter := Value → List Value → Except Fault Value

/-- The filters and the functions that rules may call. -/
structure Evaluator where
  /-- The filters by their names. -/
  registry : Registry
  /-- The meaning of functions. -/
  call : Interpreter

namespace Evaluator

variable (ev : Evaluator)

/-- What a filter answers: a built-in one as it is defined, and one of a caller by the meaning of
functions. -/
def reply [Engines] (entry : Filter.Entry) (v : Value) (arguments : List Value) : Reply :=
  match entry with
  | .builtin b => b.run v arguments
  | .given f =>
    if f.isFunction then .ofExcept (ev.call f (v :: arguments))
    else .fail (.notCallable f.kind)

/-- A step of a chain of filters whose name has been looked up. -/
structure Step where
  /-- The name of the filter. -/
  name : String
  /-- Its arguments as they are written. -/
  arguments : List String
  /-- The filter. -/
  entry : Filter.Entry

/-- The steps of a chain. -/
def resolve (query : String) (v : Value) : List Query.FilterCall → Evaluation (List Step)
  | [] => return []
  | call :: rest =>
    match ev.registry.get? call.name with
    | some entry => do
      let steps ← resolve query v rest
      return ⟨call.name, call.arguments, entry⟩ :: steps
    | none => do
      let known := ev.registry.names
      Evaluation.note [.unknownFilter (Failure.unknownFilterMessage call.name known) query]
      throw (.unknownFilter call.name known v query)

/-- One step applied to one value. -/
def runStep [Engines] (query : String) (step : Step) (v : Value) : Evaluation Value := do
  let r := ev.reply step.entry v (step.arguments.map Value.text)
  Evaluation.note r.notices
  match r.outcome with
  | .ok w => return w
  | .error f =>
    Evaluation.note [.filterFailed (Failure.filterFailedMessage step.name query f)]
    throw (.filterFailed step.name v query f)

/-- One step applied to several values, one after another. -/
def runEach [Engines] (query : String) (step : Step) : List Value → Evaluation (List Value)
  | [] => return []
  | v :: rest => do
    let w ← ev.runStep query step v
    let ws ← runEach query step rest
    return w :: ws

/-- Steps applied one after another to one value. -/
def runChain [Engines] (query : String) : List Step → Value → Evaluation Value
  | [], v => return v
  | step :: rest, v => do
    let w ← ev.runStep query step v
    runChain query rest w

/-- Steps applied one after another to every value of a list. -/
def runChainEach [Engines] (query : String) : List Step → List Value → Evaluation (List Value)
  | [], vs => return vs
  | step :: rest, vs => do
    let ws ← ev.runEach query step vs
    runChainEach query rest ws

section Scopes

variable [Engines] {σ ν : Type} [Scope σ ν]

/-- The nodes that a selector finds in a scope. -/
def select (s : σ) (selector : Option String) : Evaluation (List ν) :=
  match Scope.select s selector with
  | .ok nodes => return nodes
  | .error problem => do
    let text := selector.getD ""
    match problem with
    | .malformed reason => Evaluation.note [.badSelector text reason]
    | .fault _ => pure ()
    throw (.ofSelector text problem)

/-- The value of a query in a scope. -/
def evaluateQuery (query : String) (s : σ) : Evaluation Value := do
  let d ← Query.parse (.text query)
  let nodes ← select s d.selector
  if d.getAll then
    let vs := Scope.extractAll σ nodes d.attributeName
    let steps ← ev.resolve query (.list vs) d.filters
    return .list (← ev.runChainEach query steps vs)
  else
    let v :=
      match nodes with
      | [] => .null
      | n :: _ => Scope.extract σ n d.attributeName
    let steps ← ev.resolve query v d.filters
    ev.runChain query steps v

/-- The meaning of a function, as a computation. -/
def invoke (f : Value) (arguments : List Value) : Evaluation Value :=
  .ofExcept (ev.call f arguments)

/-- Functions applied one after another to a value. -/
def runFunctions : List Value → Value → Evaluation Value
  | [], v => return v
  | f :: rest, v => do
    let w ← ev.invoke f [v]
    runFunctions rest w

mutual

/-- The value of a rule in a scope. -/
def evaluate : Value → σ → Evaluation Value
  | .text query, s => ev.evaluateQuery query s
  | .map entries, s => do return .map (← evaluateFields entries s)
  | .list items, s => evaluateItems (.list items) items s
  | .tuple items, s => evaluateItems (.tuple items) items s
  | .function name captured, _ => ev.invoke (.function name captured) []
  | .null, _ => throw (.misuse (.rule .missing) .null)
  | other, _ => throw (.misuse (.rule (.unsupported other.kind)) other)

/-- The value of a rule that is a list of items. -/
def evaluateItems (whole : Value) : List Value → σ → Evaluation Value
  | [], _ => throw (.misuse (.rule .empty) whole)
  | lead :: rest, s =>
    match Rule.arrangement lead rest with
    | .error problem => throw (.misuse (.rule problem) whole)
    | .ok .pipeline => do
      let v ← evaluate lead s
      ev.runFunctions rest v
    | .ok (.divided query) => do
      let d ← Query.parse (.text query)
      let nodes ← select s d.selector
      if d.getAll then
        return .list (← nodes.mapM fun n => evaluateItems (.list rest) rest (Scope.enter n))
      else
        match nodes with
        | [] => return .null
        | n :: _ => evaluateItems (.list rest) rest (Scope.enter n)

/-- The values of the entries of a map of rules. -/
def evaluateFields : Entries → σ → Evaluation Entries
  | [], _ => return []
  | (key, rule) :: rest, s => do
    let v ← evaluate rule s
    let vs ← evaluateFields rest s
    return (key, v) :: vs

end

end Scopes

end Evaluator

end Extraction
