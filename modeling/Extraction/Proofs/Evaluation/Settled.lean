import Extraction.Proofs.Evaluation.Yield

/-!
# Evaluating rules is settled

No part of an evaluation looks into the store of descriptors except for reading a query. So an
evaluation, of any rule in any scope, yields the same whatever reading has put into the store
before it; this follows the evaluator function by function.

## Main results

* `Evaluator.settled_evaluateQuery` : the value of a query.
* `Evaluator.settled_evaluate`, `Evaluator.settled_evaluateItems` : the value of a rule.
-/

namespace Extraction.Evaluator

open Evaluation

variable (ev : Evaluator)

/-! ### Functions -/

theorem settled_invoke (f : Value) (arguments : List Value) : (ev.invoke f arguments).Settled :=
  settled_ofExcept _

theorem settled_runFunctions (fs : List Value) (v : Value) : (ev.runFunctions fs v).Settled := by
  induction fs generalizing v with
  | nil => exact settled_pure _
  | cons f fs ih => exact (ev.settled_invoke f [v]).bind ih

/-! ### Filters -/

theorem settled_resolve (query : String) (v : Value) :
    (calls : List Query.FilterCall) → (ev.resolve query v calls).Settled
  | [] => settled_pure _
  | call :: rest => by
    rw [resolve]
    split
    · exact (settled_resolve query v rest).bind fun _ => settled_pure _
    · exact (settled_note _).bind fun _ => settled_throw _

variable [Engines]

theorem settled_runStep (query : String) (step : Step) (v : Value) :
    (ev.runStep query step v).Settled := by
  refine (settled_note _).bind fun _ => ?_
  split
  · exact settled_pure _
  · exact (settled_note _).bind fun _ => settled_throw _

theorem settled_runEach (query : String) (step : Step) (vs : List Value) :
    (ev.runEach query step vs).Settled := by
  induction vs with
  | nil => exact settled_pure _
  | cons v vs ih =>
    exact (ev.settled_runStep query step v).bind fun _ => ih.bind fun _ => settled_pure _

theorem settled_runChain (query : String) (steps : List Step) (v : Value) :
    (ev.runChain query steps v).Settled := by
  induction steps generalizing v with
  | nil => exact settled_pure _
  | cons step steps ih => exact (ev.settled_runStep query step v).bind ih

theorem settled_runChainEach (query : String) (steps : List Step) (vs : List Value) :
    (ev.runChainEach query steps vs).Settled := by
  induction steps generalizing vs with
  | nil => exact settled_pure _
  | cons step steps ih => exact (ev.settled_runEach query step vs).bind ih

/-! ### Scopes -/

section Scopes

variable {σ ν : Type} [Scope σ ν]

omit [Engines] in
theorem settled_select (s : σ) (selector : Option String) : (select s selector).Settled := by
  unfold select
  split
  · exact settled_pure _
  · split
    · exact (settled_note _).bind fun _ => settled_throw _
    · exact settled_throw _

/-- The value of a query is settled. -/
theorem settled_evaluateQuery (query : String) (s : σ) : (ev.evaluateQuery query s).Settled := by
  refine (Query.settled_parse _).bind fun d => (settled_select s _).bind fun nodes => ?_
  split
  · exact (ev.settled_resolve _ _ _).bind fun steps =>
      (ev.settled_runChainEach _ _ _).bind fun _ => settled_pure _
  · exact (ev.settled_resolve _ _ _).bind fun steps => ev.settled_runChain _ _ _

/-! ### Rules -/

private theorem settled_all :
    (∀ (rule : Value) (s : σ), (ev.evaluate rule s).Settled) ∧
      (∀ (whole : Value) (items : List Value) (s : σ),
        (ev.evaluateItems whole items s).Settled) ∧
      ∀ (entries : Entries) (s : σ), (ev.evaluateFields entries s).Settled := by
  refine evaluate.mutual_induct (σ := σ) _ _ _ ?text ?map ?list ?tuple ?function ?null ?other
    ?empty ?misarranged ?pipeline ?divided ?noField ?field
  case text => exact fun query s => ev.settled_evaluateQuery query s
  case map => exact fun entries s ih => ih.bind fun _ => settled_pure _
  case list => exact fun items s ih => ih
  case tuple => exact fun items s ih => ih
  case function => exact fun name captured s => ev.settled_invoke _ _
  case null => exact fun s => settled_throw _
  case other =>
    intro other s htext hmap hlist htuple hfunction hnull
    rw [evaluate]
    · exact settled_throw _
    all_goals assumption
  case empty => exact fun whole s => settled_throw _
  case misarranged =>
    intro whole lead rest s problem h
    rw [evaluateItems, h]
    exact settled_throw _
  case pipeline =>
    intro whole lead rest s h ih
    rw [evaluateItems, h]
    exact ih.bind fun v => ev.settled_runFunctions rest v
  case divided =>
    intro whole lead rest s query h ih
    rw [evaluateItems, h]
    refine (Query.settled_parse _).bind fun d => (settled_select s _).bind fun nodes => ?_
    split
    · exact (Settled.mapM ih nodes).bind fun _ => settled_pure _
    · split
      · exact settled_pure _
      · exact ih _
  case noField => exact fun s => settled_pure _
  case field =>
    intro key rule rest s ih ihs
    exact ih.bind fun v => ihs.bind fun _ => settled_pure _

/-- The value of a rule is settled. -/
theorem settled_evaluate (rule : Value) (s : σ) : (ev.evaluate rule s).Settled :=
  ev.settled_all.1 rule s

/-- The value of a rule that is a list of items is settled. -/
theorem settled_evaluateItems (whole : Value) (items : List Value) (s : σ) :
    (ev.evaluateItems whole items s).Settled :=
  ev.settled_all.2.1 whole items s

/-- The values of the entries of a map of rules are settled. -/
theorem settled_evaluateFields (entries : Entries) (s : σ) :
    (ev.evaluateFields entries s).Settled :=
  ev.settled_all.2.2 entries s

end Scopes

end Extraction.Evaluator
