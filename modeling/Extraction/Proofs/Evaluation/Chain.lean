import Extraction.Proofs.Evaluation.Result
import Extraction.Proofs.Evaluation.Success
import Extraction.Proofs.Value.Decidable
import Extraction.Rule.Procedures
import Mathlib.Data.Prod.Lex
import Mathlib.Order.Bounds.Basic
import Mathlib.Order.Lattice

/-!
# Chains of filters over several values

A query for every match applies its filters one after another, each of them to all values before
the next one begins. Whether this succeeds, and what it gives then, can be told for every value by
itself. Where it fails, the order shows: the failure is that of the first filter that fails on any
value, and of the first value on which this filter fails.

## Main definitions

* `Evaluator.applied`, `Evaluator.through` : what one step, and what several steps, make of a value.
* `Evaluator.FailsAt` : a filter fails on what the steps before it have made of a value.
* `Evaluator.failures` : the positions of filters and values at which this happens.

## Main results

* `Evaluator.result_runChainEach_ok_iff` : steps that succeed for several values.
* `Evaluator.result_runChainEach_error_iff` : steps that fail for one of several values.
* `Evaluator.outcome_everyMatch` : what a query for every match gives.
-/

namespace Extraction

/-- The wording of a failed filter ends in that of the fault. -/
theorem Failure.suffix_filterFailedMessage (name query : String) (f : Fault) :
    f.message.toList <:+ (filterFailedMessage name query f).toList := by
  unfold filterFailedMessage
  generalize f.message = wording
  rw [String.toList_append]
  exact List.suffix_append _ _

namespace Evaluator

open Evaluation

variable (ev : Evaluator)

/-- What a step makes of a value, or the fault of its filter. -/
def applied (step : Step) (v : Value) : Except Fault Value :=
  (ev.reply step.entry v (step.arguments.map Value.text)).outcome

/-- What steps make of a value, each of them of what the one before it has made. -/
def through (steps : List Step) (v : Value) : Except Fault Value :=
  steps.foldlM (fun w step => ev.applied step w) v

/-- The filter of the step at a position fails on what the steps before it have made of the value
at a position. -/
structure FailsAt (steps : List Step) (vs : List Value) (i j : ℕ) (step : Step) (v : Value)
    (f : Fault) : Prop where
  step_eq : steps[i]? = some step
  through_eq : ∃ u, vs[j]? = some u ∧ ev.through (steps.take i) u = .ok v
  applied_eq : ev.applied step v = .error f

/-- The positions of steps and values at which a filter fails, in the order of the steps, and of the
values for each of them. -/
def failures (steps : List Step) (vs : List Value) : Set (ℕ ×ₗ ℕ) :=
  {p | ∃ step v f, ev.FailsAt steps vs (ofLex p).1 (ofLex p).2 step v f}

variable {ev} {query : String} {step : Step} {steps : List Step} {v w : Value}
  {vs ws : List Value}

/-! ### One value -/

theorem through_cons (step : Step) (steps : List Step) (v : Value) :
    ev.through (step :: steps) v = ev.applied step v >>= ev.through steps :=
  List.foldlM_cons ..

theorem through_append (steps steps' : List Step) (v : Value) :
    ev.through (steps ++ steps') v = ev.through steps v >>= ev.through steps' :=
  List.foldlM_append ..

theorem result_runStep (query : String) (step : Step) (v : Value) :
    (ev.runStep query step v).result =
      (ev.applied step v).mapError (.filterFailed step.name v query) := by
  cases h : ev.applied step v with
  | ok w => exact (yields_runStep_of_ok h).result_eq
  | error f => exact (yields_runStep_of_error h).result_eq

/-- A step that is followed by others does not fail where all of them succeed. -/
theorem FailsAt.through_ne_ok {i j : ℕ} {f : Fault} {u : Value}
    (h : ev.FailsAt steps vs i j step v f) (hu : vs[j]? = some u) (w : Value) :
    ev.through steps u ≠ .ok w := by
  intro hw
  obtain ⟨hstep, ⟨u', hu', hv⟩, hf⟩ := h
  obtain rfl := Option.some.inj (hu.symm.trans hu')
  obtain ⟨hi, rfl⟩ := List.getElem?_eq_some_iff.1 hstep
  rw [← List.take_append_drop i steps, through_append, hv, Result.ok_bind,
    List.drop_eq_getElem_cons hi, through_cons, hf] at hw
  cases hw

/-- At one position there is one failure. -/
theorem FailsAt.unique {i j : ℕ} {step' : Step} {v' : Value} {f f' : Fault}
    (h : ev.FailsAt steps vs i j step v f) (h' : ev.FailsAt steps vs i j step' v' f') :
    step' = step ∧ v' = v ∧ f' = f := by
  obtain ⟨hstep, ⟨u, hu, hv⟩, hf⟩ := h
  obtain ⟨hstep', ⟨u', hu', hv'⟩, hf'⟩ := h'
  obtain rfl := Option.some.inj (hu.symm.trans hu')
  obtain rfl := Option.some.inj (hstep.symm.trans hstep')
  obtain rfl := Except.ok.inj (hv.symm.trans hv')
  exact ⟨rfl, rfl, (Except.error.inj (hf.symm.trans hf')).symm⟩

/-! ### One step for several values -/

theorem runEach_eq_mapM (query : String) (step : Step) (vs : List Value) :
    ev.runEach query step vs = vs.mapM (ev.runStep query step) := by
  induction vs with
  | nil => rfl
  | cons v vs ih => rw [runEach, ih, List.mapM_cons]

/-- One step succeeds for several values if it does for each of them. -/
theorem result_runEach_ok_iff :
    (ev.runEach query step vs).result = .ok ws ↔
      List.Forall₂ (fun v w => ev.applied step v = .ok w) vs ws := by
  rw [runEach_eq_mapM, result_mapM_ok_iff (ev.settled_runStep query step)]
  simp only [result_runStep, Result.mapError_eq_ok_iff]

/-- One step fails for several values as it does for the first of them for which it fails. -/
theorem result_runEach_error_iff {x : Failure} :
    (ev.runEach query step vs).result = .error x ↔
      ∃ before v later, vs = before ++ v :: later ∧
        (∀ u ∈ before, ∃ w, ev.applied step u = .ok w) ∧
        ∃ f, ev.applied step v = .error f ∧ .filterFailed step.name v query f = x := by
  rw [runEach_eq_mapM, result_mapM_error_iff (ev.settled_runStep query step)]
  simp only [result_runStep, Result.mapError_eq_ok_iff, Result.mapError_eq_error_iff]

/-! ### Several steps for several values -/

/-- Two relations hold one after the other between the items of lists if there is a list between
them. -/
private theorem exists_forall₂_comp_iff {α β γ : Type} {R : α → β → Prop} {S : β → γ → Prop}
    {as : List α} {cs : List γ} :
    (∃ bs, List.Forall₂ R as bs ∧ List.Forall₂ S bs cs) ↔
      List.Forall₂ (fun a c => ∃ b, R a b ∧ S b c) as cs := by
  constructor
  · rintro ⟨bs, hR, hS⟩
    induction hR generalizing cs with
    | nil =>
      cases hS
      exact .nil
    | cons hab _ ih =>
      cases hS with
      | cons hbc hS => exact .cons ⟨_, hab, hbc⟩ (ih hS)
  · intro h
    induction h with
    | nil => exact ⟨[], .nil, .nil⟩
    | cons hac _ ih =>
      obtain ⟨b, hab, hbc⟩ := hac
      obtain ⟨bs, hR, hS⟩ := ih
      exact ⟨b :: bs, .cons hab hR, .cons hbc hS⟩

theorem result_runChainEach_cons (query : String) (step : Step) (steps : List Step)
    (vs : List Value) :
    (ev.runChainEach query (step :: steps) vs).result =
      (ev.runEach query step vs).result >>= fun ws => (ev.runChainEach query steps ws).result :=
  (ev.settled_runEach query step vs).result_bind fun _ => ev.settled_runChainEach query steps _

/-- Steps succeed for several values, all values for every step, if they do for every value by
itself; they give what they give for each. -/
theorem result_runChainEach_ok_iff :
    (ev.runChainEach query steps vs).result = .ok ws ↔
      List.Forall₂ (fun v w => ev.through steps v = .ok w) vs ws := by
  induction steps generalizing vs with
  | nil =>
    rw [runChainEach, result_pure, Except.ok.injEq, ← List.forall₂_eq_eq_eq]
    simp only [through, List.foldlM_nil, pure, Except.pure, Except.ok.injEq]
  | cons step steps ih =>
    rw [result_runChainEach_cons, Result.bind_eq_ok_iff]
    simp only [result_runEach_ok_iff, ih, through_cons, Result.bind_eq_ok_iff,
      exists_forall₂_comp_iff]

/-- A step that succeeds for all values fails at none of them. -/
theorem not_failsAt_zero (h : List.Forall₂ (fun v w => ev.applied step v = .ok w) vs ws) {j : ℕ}
    {step' : Step} {f : Fault} : ¬ev.FailsAt (step :: steps) vs 0 j step' v f := by
  rintro ⟨hstep, ⟨u, hu, hv⟩, hf⟩
  obtain rfl := Option.some.inj hstep
  obtain rfl := Except.ok.inj hv
  obtain ⟨hj, rfl⟩ := List.getElem?_eq_some_iff.1 hu
  have hok := h.get hj (h.length_eq ▸ hj)
  rw [List.get_eq_getElem, hf] at hok
  cases hok

/-- Where the first step succeeds for all values, later ones fail as they do for what it has
made. -/
theorem failsAt_succ_iff (h : List.Forall₂ (fun v w => ev.applied step v = .ok w) vs ws) {i j : ℕ}
    {step' : Step} {f : Fault} :
    ev.FailsAt (step :: steps) vs (i + 1) j step' v f ↔ ev.FailsAt steps ws i j step' v f := by
  have hpast : (∃ u, vs[j]? = some u ∧ ev.through ((step :: steps).take (i + 1)) u = .ok v) ↔
      ∃ u, ws[j]? = some u ∧ ev.through (steps.take i) u = .ok v := by
    simp only [List.take_succ_cons, through_cons, Result.bind_eq_ok_iff]
    constructor
    · rintro ⟨u, hu, w, hw, hv⟩
      obtain ⟨hj, rfl⟩ := List.getElem?_eq_some_iff.1 hu
      have hj' : j < ws.length := h.length_eq ▸ hj
      have hw' := h.get hj hj'
      obtain rfl := Except.ok.inj (hw.symm.trans hw')
      exact ⟨_, List.getElem?_eq_some_iff.2 ⟨hj', rfl⟩, hv⟩
    · rintro ⟨w, hw, hv⟩
      obtain ⟨hj, rfl⟩ := List.getElem?_eq_some_iff.1 hw
      have hj' : j < vs.length := h.length_eq ▸ hj
      exact ⟨_, List.getElem?_eq_some_iff.2 ⟨hj', rfl⟩, _, h.get hj' hj, hv⟩
  constructor
  · rintro ⟨hstep, hv, hf⟩
    exact ⟨hstep, hpast.1 hv, hf⟩
  · rintro ⟨hstep, hv, hf⟩
    exact ⟨hstep, hpast.2 hv, hf⟩

/-- The first step that fails for any value does so at the least position. -/
theorem isLeast_failures_zero (steps : List Step) {before : List Value} (later : List Value)
    {f : Fault} (hbefore : ∀ u ∈ before, ∃ w, ev.applied step u = .ok w)
    (hf : ev.applied step v = .error f) :
    IsLeast (ev.failures (step :: steps) (before ++ v :: later)) (toLex (0, before.length)) ∧
      ev.FailsAt (step :: steps) (before ++ v :: later) 0 before.length step v f := by
  have hfails : ev.FailsAt (step :: steps) (before ++ v :: later) 0 before.length step v f :=
    ⟨rfl, ⟨v, by simp, rfl⟩, hf⟩
  refine ⟨⟨⟨step, v, f, hfails⟩, ?_⟩, hfails⟩
  rintro p ⟨step', v', f', hstep, ⟨u, hu, hv⟩, hf'⟩
  rw [Prod.Lex.le_iff]
  rcases Nat.eq_zero_or_pos (ofLex p).1 with hi | hi
  · refine .inr ⟨hi.symm, Nat.not_lt.1 fun hj => ?_⟩
    rw [hi] at hstep hv
    obtain rfl := Option.some.inj hstep
    obtain rfl := Except.ok.inj hv
    rw [List.getElem?_append_left hj] at hu
    obtain ⟨w, hw⟩ := hbefore u (List.mem_of_getElem? hu)
    cases hw.symm.trans hf'
  · exact .inl hi

/-- Where the first step succeeds for all values, the least position is that of the later steps. -/
theorem isLeast_failures_succ (h : List.Forall₂ (fun v w => ev.applied step v = .ok w) vs ws)
    {i j : ℕ} (hleast : IsLeast (ev.failures steps ws) (toLex (i, j))) :
    IsLeast (ev.failures (step :: steps) vs) (toLex (i + 1, j)) := by
  obtain ⟨⟨step', v, f, hfails⟩, hlower⟩ := hleast
  refine ⟨⟨step', v, f, (failsAt_succ_iff h).2 hfails⟩, ?_⟩
  rintro p ⟨step'', v', f', hp⟩
  rw [Prod.Lex.le_iff]
  cases hi : (ofLex p).1 with
  | zero =>
    rw [hi] at hp
    exact (not_failsAt_zero h hp).elim
  | succ k =>
    rw [hi] at hp
    have hle := hlower (show toLex (k, (ofLex p).2) ∈ ev.failures steps ws from
      ⟨step'', v', f', (failsAt_succ_iff h).1 hp⟩)
    rw [Prod.Lex.toLex_le_toLex] at hle
    exact hle.imp Nat.succ_lt_succ (And.imp_left (congrArg Nat.succ))

private theorem exists_isLeast_of_runChainEach {x : Failure}
    (h : (ev.runChainEach query steps vs).result = .error x) :
    ∃ i j step v f, IsLeast (ev.failures steps vs) (toLex (i, j)) ∧
      ev.FailsAt steps vs i j step v f ∧ x = .filterFailed step.name v query f := by
  induction steps generalizing vs with
  | nil => cases h
  | cons step steps ih =>
    rw [result_runChainEach_cons] at h
    rcases Result.bind_eq_error_iff.1 h with h | ⟨ws, hws, h⟩
    · obtain ⟨before, v, later, rfl, hbefore, f, hf, rfl⟩ := result_runEach_error_iff.1 h
      obtain ⟨hleast, hfails⟩ := isLeast_failures_zero steps later hbefore hf
      exact ⟨0, before.length, step, v, f, hleast, hfails, rfl⟩
    · have hall := result_runEach_ok_iff.1 hws
      obtain ⟨i, j, step', v, f, hleast, hfails, rfl⟩ := ih h
      exact ⟨i + 1, j, step', v, f, isLeast_failures_succ hall hleast,
        (failsAt_succ_iff hall).2 hfails, rfl⟩

/-- Steps fail for several values as the first of them does that fails for any, for the first value
for which it fails. -/
theorem result_runChainEach_error_iff {x : Failure} :
    (ev.runChainEach query steps vs).result = .error x ↔
      ∃ i j step v f, IsLeast (ev.failures steps vs) (toLex (i, j)) ∧
        ev.FailsAt steps vs i j step v f ∧ x = .filterFailed step.name v query f := by
  refine ⟨exists_isLeast_of_runChainEach, ?_⟩
  rintro ⟨i, j, step, v, f, hleast, hfails, rfl⟩
  cases hresult : (ev.runChainEach query steps vs).result with
  | ok ws =>
    obtain ⟨u, hu, -⟩ := hfails.through_eq
    obtain ⟨hj, rfl⟩ := List.getElem?_eq_some_iff.1 hu
    have hall := result_runChainEach_ok_iff.1 hresult
    exact (hfails.through_ne_ok hu _ (hall.get hj (hall.length_eq ▸ hj))).elim
  | error x =>
    obtain ⟨i', j', step', v', f', hleast', hfails', rfl⟩ :=
      exists_isLeast_of_runChainEach hresult
    obtain ⟨rfl, rfl⟩ := Prod.mk.inj (toLex.injective (hleast'.unique hleast))
    obtain ⟨rfl, rfl, rfl⟩ := hfails.unique hfails'
    rfl

/-! ### Queries -/

section Scopes

variable {σ ν : Type} [Scope σ ν] {d : Query.Descriptor} {s : σ} {nodes : List ν}

variable (ev) in
/-- A query that has a descriptor, and whose selector is accepted, comes to what it makes of the
nodes. -/
theorem outcomeFrom_evaluateQuery (hd : Query.meaning (.text query) = .ok d)
    (hnodes : Scope.select s d.selector = .ok nodes) {t : Trace} (ht : t.cache.Faithful) :
    (ev.evaluateQuery query s).outcomeFrom t = (ev.answer σ query d nodes).outcomeFrom t := by
  have hanswer := (ev.settled_answer σ query d nodes).yields ht
  have hselect := (yields_select_ok_iff.2 ⟨hnodes, rfl⟩).bind hanswer
  rw [evaluateQuery_eq]
  exact ((Query.yields_parse_ok_iff.2 ⟨hd, rfl⟩).bind hselect).outcomeFrom ht

/-- A query for every match whose filters are all there runs them over the data of the nodes. -/
theorem result_answer_all (hall : d.getAll = true) (hsteps : d.filters.mapM ev.step? = some steps)
    (nodes : List ν) :
    (ev.answer σ query d nodes).result =
      (ev.runChainEach query steps
        (Scope.extractAll σ nodes d.attributeName)).result.map .list := by
  have hresolve (v : Value) : (ev.resolve query v d.filters).result = .ok steps :=
    (yields_resolve_ok_iff.2 ⟨hsteps, rfl⟩).result_eq
  unfold answer
  rw [if_pos hall, (ev.settled_resolve ..).result_bind
    fun _ => (ev.settled_runChainEach ..).bind fun _ => settled_pure _, hresolve, Result.ok_bind,
    result_map]

/-- **Filter by filter is value by value.** Take any query for every match whose filters are all
registered, whatever they give and whatever faults they have, in any scope that accepts its
selector, and a store that reading queries has filled in any way. The query succeeds exactly if for
the datum of every node its filters succeed one after another, and it gives the list of what they
give for each. Otherwise it fails at the least position of a filter and a datum at which the filter
fails on what the filters before it have made of the datum: the failure names this filter, the value
that it was given and the query as it is written, and its wording ends in that of the fault. -/
theorem outcome_everyMatch (ev : Evaluator) (s : σ) (query : String) (d : Query.Descriptor)
    (nodes : List ν) (steps : List Step) (hd : Query.meaning (.text query) = .ok d)
    (hall : d.getAll = true) (hnodes : Scope.select s d.selector = .ok nodes)
    (hsteps : d.filters.mapM ev.step? = some steps) (capacity : Int) (uses : List Query.Use)
    (ns : List Notice) :
    let xs := Scope.extractAll σ nodes d.attributeName
    let r := ((ev.evaluate (.text query) s).outcomeFrom ⟨.filled capacity uses, ns⟩).1
    ((∃ v, r = .ok v) ↔ ∀ x ∈ xs, ∃ y, ev.through steps x = .ok y) ∧
    (∀ v, r = .ok v ↔ ∃ ys, v = .list ys ∧
      List.Forall₂ (fun x y => ev.through steps x = .ok y) xs ys) ∧
    (∀ failure, r = .error failure ↔ ∃ i j step v f,
      IsLeast (ev.failures steps xs) (toLex (i, j)) ∧ ev.FailsAt steps xs i j step v f ∧
        failure = .filterFailed step.name v query f) ∧
    ∀ (name : String) (v : Value) (f : Fault) (explain : String → String), ∃ report,
      (Failure.filterFailed name v query f).describe explain = .ok report ∧
        report.kind = "FilterError" ∧
        report.details = [(.text "filter_name", .text name), (.text "value", v),
          (.text "query", .text query)] ∧
        f.message.toList <:+ report.message.toList := by
  intro xs r
  have ht : (⟨.filled capacity uses, ns⟩ : Trace).cache.Faithful :=
    Query.Cache.faithful_filled capacity uses
  have hr : r = (ev.runChainEach query steps xs).result.map .list := by
    rw [← result_answer_all hall hsteps nodes]
    refine Eq.trans ?_ ((ev.settled_answer σ query d nodes).outcomeFrom_fst ht)
    exact congrArg Prod.fst (ev.outcomeFrom_evaluateQuery hd hnodes ht)
  have hok (v : Value) : r = .ok v ↔ ∃ ys, v = .list ys ∧
      List.Forall₂ (fun x y => ev.through steps x = .ok y) xs ys := by
    rw [hr, Result.map_eq_ok_iff]
    refine exists_congr fun ys => ?_
    rw [result_runChainEach_ok_iff, and_comm, eq_comm]
  refine ⟨?success, hok, fun failure => ?failure, fun name v f explain => ?report⟩
  case success =>
    rw [← exists_forall₂_iff]
    constructor
    · rintro ⟨v, hv⟩
      obtain ⟨ys, -, h⟩ := (hok v).1 hv
      exact ⟨ys, h⟩
    · rintro ⟨ys, h⟩
      exact ⟨.list ys, (hok _).2 ⟨ys, rfl, h⟩⟩
  case failure =>
    rw [hr, Result.map_eq_error_iff, result_runChainEach_error_iff]
  case report =>
    exact ⟨_, rfl, rfl, rfl, Failure.suffix_filterFailedMessage name query f⟩

/-- Two filters that fail on one of two values each: value by value the second filter would be the
first to fail, filter by filter it is the first one. -/
theorem outcome_everyMatch_rows :
    let fails (text : String) : Value := .function "fail_if" [.text text]
    let ev : Evaluator := ⟨.merged [("y", fails "y"), ("x", fails "x")], Procedure.interpreter⟩
    let row (text : String) : TableScope := .node [("text", .text text)] []
    let page : TableScope := .node [] [("b", [row " x", row "y"])]
    let r (query : String) :=
      ((ev.evaluate (.text query) page).outcomeFrom ⟨.filled 1 [.read (.text "b")], []⟩).1
    let step (name : String) : Step := ⟨name, [], .given (fails name)⟩
    let steps : List Step := [⟨"trim", [], .builtin .trim⟩, step "y", step "x"]
    r "[b | trim | upper]" = .ok (.list [.text "X", .text "Y"]) ∧
      r "[b | trim | y | x]" = .error (.filterFailed "y" (.text "y") "[b | trim | y | x]"
        (.reported .value "bad item y")) ∧
      ev.FailsAt steps [.text " x", .text "y"] 2 0 (step "x") (.text "x")
        (.reported .value "bad item x") := by
  intro fails ev row page r step steps
  have hd : Query.meaning (.text "[b | trim | y | x]") =
      .ok ⟨some "b", none, [⟨"trim", []⟩, ⟨"y", []⟩, ⟨"x", []⟩], true⟩ := by decide +kernel
  have hd' : Query.meaning (.text "[b | trim | upper]") =
      .ok ⟨some "b", none, [⟨"trim", []⟩, ⟨"upper", []⟩], true⟩ := by decide +kernel
  have hsteps : List.mapM ev.step? [⟨"trim", []⟩, ⟨"y", []⟩, ⟨"x", []⟩] = some steps := rfl
  have hsteps' : List.mapM ev.step? [⟨"trim", []⟩, ⟨"upper", []⟩] =
      some [⟨"trim", [], .builtin .trim⟩, ⟨"upper", [], .builtin .upper⟩] := rfl
  obtain ⟨-, -, hfailure, -⟩ := outcome_everyMatch ev page _ _ _ _ hd rfl rfl hsteps 1
    [.read (.text "b")] []
  obtain ⟨-, hok, -, -⟩ := outcome_everyMatch ev page _ _ _ _ hd' rfl rfl hsteps' 1
    [.read (.text "b")] []
  have hgiven : r "[b | trim | upper]" = .ok (.list [.text "X", .text "Y"]) :=
    (hok _).2 ⟨_, rfl, .cons (by decide +kernel) (.cons (by decide +kernel) .nil)⟩
  -- What the first filter makes of the rows, and what the other two make of that.
  let trimmed : List Value := [.text "x", .text "y"]
  have hall : List.Forall₂ (fun v w => ev.applied ⟨"trim", [], .builtin .trim⟩ v = .ok w)
      [.text " x", .text "y"] trimmed :=
    .cons (by decide +kernel) (.cons (by decide +kernel) .nil)
  have hpass : ev.applied (step "y") (.text "x") = .ok (.text "x") := by decide +kernel
  have hbefore : ∀ u ∈ [Value.text "x"], ∃ w, ev.applied (step "y") u = .ok w :=
    List.forall_mem_singleton.2 ⟨_, hpass⟩
  have hy : (Value.text "y").equal (.text "y") = true := by decide +kernel
  have hx : (Value.text "x").equal (.text "x") = true := by decide +kernel
  obtain ⟨hleast, hfails⟩ := isLeast_failures_zero [step "x"] [] hbefore
    (show ev.applied (step "y") (.text "y") = .error _ from if_pos hy)
  have hlater : ev.FailsAt [step "y", step "x"] trimmed 1 0 (step "x") (.text "x")
      (.reported .value "bad item x") :=
    ⟨rfl, ⟨.text "x", rfl, congrArg (· >>= _) hpass⟩, if_pos hx⟩
  exact ⟨hgiven, (hfailure _).2 ⟨1, 1, _, _, _, isLeast_failures_succ hall hleast,
    (failsAt_succ_iff hall).2 hfails, rfl⟩, (failsAt_succ_iff hall).2 hlater⟩

end Scopes

end Evaluator

end Extraction
