import Extraction.Proofs.Evaluation.Success
import Extraction.Proofs.Query.Bracket
import Extraction.Proofs.Rule.Conformance

/-!
# The first match

A query in brackets asks for every match and the same query without them for the first one. The
two evaluations take different ways: the filters of the one run step by step over a list of values,
and those of the other run over one value alone; a divided list goes on in the scope of every node
or in that of the first one. Both give the same first value.

## Main results

* `Evaluator.yields_runChain_of_runChainEach` : steps applied to several values give the first of
  them what they give it alone.
* `Rule.first_of_evaluate_bracketed` : the first result of a query or divided list in brackets is
  its result without them.
-/

namespace Extraction

open Evaluation

namespace Evaluator

variable {ev : Evaluator}

/-- A step that succeeds does so under the text of any query. -/
theorem yields_runStep_of_query {query : String} (query' : String) {step : Step} {v w : Value}
    {ws : List Notice} (h : (ev.runStep query step v).Yields (.ok w) ws) :
    (ev.runStep query' step v).Yields (.ok w) ws :=
  yields_runStep_ok_iff.2 (yields_runStep_ok_iff.1 h)

/-- Steps applied to several values, one step after another to all of them, give the first of them
what they give it alone. -/
theorem yields_runChain_of_runChainEach {query : String} (query' : String) {steps : List Step}
    {v : Value} {vs ws : List Value} {us : List Notice}
    (h : (ev.runChainEach query steps (v :: vs)).Yields (.ok ws) us) :
    ∃ w ws' us', ws = w :: ws' ∧ (ev.runChain query' steps v).Yields (.ok w) us' := by
  induction steps generalizing v vs us with
  | nil =>
    rw [runChainEach, yields_pure_ok_iff] at h
    exact ⟨v, vs, [], h.1, yields_pure v⟩
  | cons step steps ih =>
    rw [runChainEach, yields_bind_ok_iff (ev.settled_runEach query step _)
      fun _ => ev.settled_runChainEach query steps _] at h
    obtain ⟨vs', us₁, us₂, hstep, hsteps, -⟩ := h
    obtain ⟨v', vs', us₃, us₄, hv', -, rfl, -⟩ := yields_runEach_cons_ok_iff.1 hstep
    obtain ⟨w, ws', us', rfl, hw⟩ := ih hsteps
    exact ⟨w, ws', us₃ ++ us', rfl, (yields_runStep_of_query query' hv').bind hw⟩

variable {σ ν : Type} [Scope σ ν]

/-- The answer of a query for every match is a list. If that is empty, no node was selected; else
its first item is the answer of the query for the first match. -/
theorem yields_answer_first {query : String} (query' : String) {d : Query.Descriptor}
    (hall : d.getAll = true) {nodes : List ν} {vs : List Value} {ws : List Notice}
    (h : (ev.answer σ query d nodes).Yields (.ok (.list vs)) ws) :
    match vs with
    | [] => nodes = []
    | v :: _ =>
      ∃ ws', (ev.answer σ query' { d with getAll := false } nodes).Yields (.ok v) ws' := by
  obtain ⟨steps, results, hsteps, hresults, hvs⟩ := (yields_answer_all_ok_iff hall).1 h
  obtain rfl := Value.list.inj hvs
  cases nodes with
  | nil =>
    have hlength := length_of_yields_runChainEach hresults
    obtain rfl := List.eq_nil_of_length_eq_zero hlength
    rfl
  | cons n nodes =>
    obtain ⟨w, results', us, rfl, hw⟩ := yields_runChain_of_runChainEach query' hresults
    refine ⟨us, ?_⟩
    rw [answer_first rfl]
    exact yields_applyChain_ok_iff.2 ⟨steps, hsteps, hw⟩

/-- A list divided for every match gives a list. If that is empty, no node was selected; else its
first item is what the list gives when it is divided for the first match. -/
theorem yields_divide_first {rest : List Value} {nodes : List ν} {vs : List Value}
    {ws : List Notice} (h : (ev.divide σ true rest nodes).Yields (.ok (.list vs)) ws) :
    ∃ ws', (ev.divide σ false rest nodes).Yields (.ok (vs.headD .null)) ws' := by
  rw [divide_all] at h
  have hsettled (n : ν) : (ev.evaluateItems (.list rest) rest (Scope.enter n : σ)).Settled :=
    ev.settled_evaluateItems ..
  obtain ⟨results, hresults, hvs⟩ := (yields_map_ok_iff (Settled.mapM hsettled nodes)).1 h
  obtain rfl := Value.list.inj hvs
  cases hresults.forall₂_of_mapM hsettled with
  | nil => exact ⟨[], yields_pure _⟩
  | cons hfirst => exact hfirst

end Evaluator

namespace Rule

open Query

variable {σ ν : Type} [Scope σ ν] {ev : Evaluator} {query : String} {s : σ}

/-- If a query in brackets gives a list with a first item, that is what the query gives without
them. If it gives the empty list, the query without them applies its filters to the empty value. -/
theorem yields_first_of_bracketed (hlong : query.length + 2 ≤ maxLength)
    (hplain : isBracketed (Text.trim query.toList) = false) {vs : List Value} {ws : List Notice}
    (h : (ev.evaluateQuery (bracketed query) s).Yields (.ok (.list vs)) ws) :
    match vs with
    | [] => ∃ d, meaning (.text query) = .ok d ∧ ∀ r us,
        (ev.applyChain query d.filters .null).Yields r us → (ev.evaluateQuery query s).Yields r us
    | v :: _ => ∃ ws', (ev.evaluateQuery query s).Yields (.ok v) ws' := by
  obtain ⟨d, nodes, hd, hnodes, h⟩ := Evaluator.yields_evaluateQuery_ok_iff.1 h
  obtain ⟨hall, hd⟩ := (meaning_bracketed_ok_iff hlong hplain).1 hd
  have hfirst := Evaluator.yields_answer_first query hall h
  cases vs with
  | nil =>
    obtain rfl : nodes = [] := hfirst
    refine ⟨_, hd, fun r us hr => ?_⟩
    rw [Evaluator.evaluateQuery_eq]
    exact (yields_parse_ok_iff.2 ⟨hd, rfl⟩).bind
      ((Evaluator.yields_select_ok_iff.2 ⟨hnodes, rfl⟩).bind hr)
  | cons v vs =>
    obtain ⟨ws', hfirst⟩ := hfirst
    exact ⟨ws', Evaluator.yields_evaluateQuery_ok_iff.2 ⟨_, nodes, hd, hnodes, hfirst⟩⟩

/-- A divided list whose first item stands in brackets gives a list. Without the brackets it gives
the first item of that, or the empty value if there is none. -/
theorem yields_first_of_divided_bracketed (hlong : query.length + 2 ≤ maxLength)
    (hplain : isBracketed (Text.trim query.toList) = false) {second : Value} {more : List Value}
    (hsecond : second.isFunction = false) {whole : Value} (whole' : Value) {vs : List Value}
    {ws : List Notice}
    (h : (ev.evaluateItems whole (.text (bracketed query) :: second :: more) s).Yields
      (.ok (.list vs)) ws) :
    ∃ ws', (ev.evaluateItems whole' (.text query :: second :: more) s).Yields
      (.ok (vs.headD .null)) ws' := by
  have harr (q : String) : arrangement (.text q) (second :: more) = .ok (.divided q) :=
    arrangement_eq_divided_iff.2 ⟨rfl, second, more, rfl, hsecond⟩
  obtain ⟨d, nodes, hd, hnodes, h⟩ :=
    (Evaluator.yields_evaluateItems_divided_ok_iff (harr _)).1 h
  obtain ⟨hall, hd⟩ := (meaning_bracketed_ok_iff hlong hplain).1 hd
  rw [hall] at h
  obtain ⟨ws', hfirst⟩ := Evaluator.yields_divide_first h
  exact ⟨ws', (Evaluator.yields_evaluateItems_divided_ok_iff (harr _)).2
    ⟨_, nodes, hd, hnodes, hfirst⟩⟩

/-- **The first match.** Take any query that has no brackets around it and is not too long with
them, in any scope and with any filters, and two stores that reading queries has filled in any way.
If the query in brackets gives a list with a first item, the query gives that item; if it gives the
empty list, the query has the outcome of its filters applied to the empty value. If a list that is
divided by the query in brackets gives a list, the list that is divided by the query gives its
first item, or the empty value if there is none. -/
theorem first_of_evaluate_bracketed (ev : Evaluator) (s : σ) (query : String)
    (hlong : query.length ≤ 998) (hplain : isBracketed (Text.trim query.toList) = false)
    (capacity capacity' : Int) (uses uses' : List Use) (ns ns' : List Notice) :
    let t : Trace := ⟨.filled capacity uses, ns⟩
    let t' : Trace := ⟨.filled capacity' uses', ns'⟩
    (∀ v vs,
      ((ev.evaluate (.text (bracketed query)) s).outcomeFrom t).1 = .ok (.list (v :: vs)) →
        ((ev.evaluate (.text query) s).outcomeFrom t').1 = .ok v) ∧
    (((ev.evaluate (.text (bracketed query)) s).outcomeFrom t).1 = .ok (.list []) →
      ∃ d, meaning (.text query) = .ok d ∧
        (ev.evaluate (.text query) s).outcomeFrom t' =
          (ev.applyChain query d.filters .null).outcomeFrom t') ∧
    ∀ second more, second.isFunction = false → ∀ vs,
      ((ev.evaluate (.list (.text (bracketed query) :: second :: more)) s).outcomeFrom t).1 =
          .ok (.list vs) →
        ((ev.evaluate (.list (.text query :: second :: more)) s).outcomeFrom t').1 =
          .ok (vs.headD .null) := by
  intro t t'
  have ht : t.cache.Faithful := Cache.faithful_filled capacity uses
  have ht' : t'.cache.Faithful := Cache.faithful_filled capacity' uses'
  have hlong' : query.length + 2 ≤ maxLength := by
    rw [maxLength]
    omega
  refine ⟨fun v vs h => ?_, fun h => ?_, fun second more hsecond vs h => ?_⟩
  · have hy := (ev.settled_evaluate (.text (bracketed query)) s).yields ht
    rw [h] at hy
    obtain ⟨ws', hfirst⟩ := yields_first_of_bracketed hlong' hplain hy
    exact congrArg Prod.fst (hfirst.outcomeFrom ht')
  · have hy := (ev.settled_evaluate (.text (bracketed query)) s).yields ht
    rw [h] at hy
    obtain ⟨d, hd, hchain⟩ := yields_first_of_bracketed hlong' hplain hy
    refine ⟨d, hd, ?_⟩
    exact (hchain _ _ ((ev.settled_applyChain query d.filters .null).yields ht')).outcomeFrom ht'
  · have hy := (ev.settled_evaluate (.list (.text (bracketed query) :: second :: more)) s).yields ht
    rw [h] at hy
    obtain ⟨ws', hfirst⟩ := yields_first_of_divided_bracketed hlong' hplain hsecond
      (.list (.text query :: second :: more)) hy
    exact congrArg Prod.fst (hfirst.outcomeFrom ht')

/-- A query that finds two nodes, one that finds none, and a list that is divided by the first. -/
theorem first_of_evaluate_bracketed_rows :
    let ev : Evaluator := ⟨.builtin, fun f _ => .error (.notCallable f.kind)⟩
    let page : TableScope :=
      .node [] [("b", [.node [("text", .text " x ")] [], .node [("text", .text "y")] []])]
    (Evaluation.outcomeFrom {} (ev.evaluate (.text "[b | trim]") page)).1 =
        .ok (.list [.text "x", .text "y"]) ∧
      (Evaluation.outcomeFrom {} (ev.evaluate (.text "b | trim") page)).1 = .ok (.text "x") ∧
      (Evaluation.outcomeFrom {} (ev.evaluate (.list [.text "[b]", .text "i"]) page)).1 =
        .ok (.list [.null, .null]) ∧
      (Evaluation.outcomeFrom {} (ev.evaluate (.list [.text "b", .text "i"]) page)).1 =
        .ok .null := by
  intro ev page
  have hb := first_of_evaluate_bracketed ev page "b | trim" (by decide) (by decide) 1000 1000 [] []
    [] []
  have hdivided := (first_of_evaluate_bracketed ev page "b" (by decide) (by decide) 1000 1000 [] []
    [] []).2.2
  refine ⟨by decide +kernel, hb.1 _ [.text "y"] (by decide +kernel), by decide +kernel,
    hdivided (.text "i") [] rfl [.null, .null] (by decide +kernel)⟩

end Rule

end Extraction
