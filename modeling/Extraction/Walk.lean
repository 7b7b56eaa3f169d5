import Extraction.Evaluation

/-!
# Walks through scopes

A walk goes down from a scope into nodes that have been selected, and back up. It remembers the
scopes on the way and the nodes of the last selection that succeeded; nodes stay when a step fails
and when the scope changes.

## Main definitions

* `Walk` : where a walk stands.
* `Walk.Step`, `Walk.Answer` : the steps and what they answer.
* `Walk.step`, `Walk.run` : one step, and the answers of several.
-/

namespace Extraction

/-- Where a walk through scopes of type `σ` with nodes of type `ν` stands. -/
structure Walk (σ ν : Type) where
  /-- The current scope. -/
  here : σ
  /-- The scopes above it, the nearest first. -/
  above : List σ := []
  /-- The nodes of the last selection. -/
  nodes : List ν := []
  /-- The store of descriptors and the notices so far. -/
  trace : Trace := {}

namespace Walk

/-- A step of a walk. -/
inductive Step where
  /-- Nodes are selected. -/
  | select (selector : Option String)
  /-- The datum of a node is asked for, or that of no node. -/
  | extract (position : Option Int) (name : Option String)
  /-- The data of all nodes are asked for. -/
  | extractAll (name : Option String)
  /-- The walk goes down into a node. -/
  | enter (position : Int)
  /-- The walk goes back up. -/
  | leave
  /-- The current scope is asked for. -/
  | show
  /-- A rule is evaluated. -/
  | evaluate (rule : Value)

/-- What a step answers. -/
inductive Answer (σ ν : Type) where
  /-- The nodes that a selector finds. -/
  | nodes (found : List ν)
  /-- A value. -/
  | value (v : Value)
  /-- How many scopes there are from the first one to the current one. -/
  | depth (n : Nat)
  /-- The current scope. -/
  | scope (s : σ)
  /-- The step has failed. -/
  | failed (f : Failure)

variable {σ ν : Type} [Scope σ ν]

/-- How many scopes there are from the first one to the current one. -/
def depth (w : Walk σ ν) : Nat :=
  w.above.length + 1

/-- The node at a position; a negative position counts from the end. -/
def node? (w : Walk σ ν) (position : Int) : Option ν :=
  let i := if position < 0 then position + w.nodes.length else position
  if i < 0 then none else w.nodes[i.toNat]?

/-- One step. -/
def step [Engines] (ev : Evaluator) (w : Walk σ ν) : Step → Answer σ ν × Walk σ ν
  | .select selector =>
    let (outcome, trace) := (Evaluator.select w.here selector).runFrom w.trace
    match outcome with
    | .ok found => (.nodes found, { w with nodes := found, trace })
    | .error f => (.failed f, { w with trace })
  | .extract none _ => (.value .null, w)
  | .extract (some position) name =>
    match w.node? position with
    | some n => (.value (Scope.extract σ n name), w)
    | none => (.failed (.fault .noSuchItem), w)
  | .extractAll name => (.value (.list (Scope.extractAll σ w.nodes name)), w)
  | .enter position =>
    match w.node? position with
    | some n =>
      let below : Walk σ ν := { w with here := Scope.enter n, above := w.here :: w.above }
      (.depth below.depth, below)
    | none => (.failed (.fault .noSuchItem), w)
  | .leave =>
    match w.above with
    | [] => (.depth w.depth, w)
    | top :: rest =>
      let back := { w with here := top, above := rest }
      (.depth back.depth, back)
  | .show => (.scope w.here, w)
  | .evaluate rule =>
    let (outcome, trace) := (ev.evaluate rule w.here).runFrom w.trace
    match outcome with
    | .ok v => (.value v, { w with trace })
    | .error f => (.failed f, { w with trace })

/-- The answers of several steps, and where the walk stands after them. -/
def run [Engines] (ev : Evaluator) (w : Walk σ ν) : List Step → List (Answer σ ν) × Walk σ ν
  | [] => ([], w)
  | first :: rest =>
    let (answer, after) := w.step ev first
    let (answers, last) := run ev after rest
    (answer :: answers, last)

end Walk

end Extraction
