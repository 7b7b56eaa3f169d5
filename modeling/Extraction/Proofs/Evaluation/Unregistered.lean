import Extraction.Proofs.Evaluation.Chain
import Extraction.Proofs.Filter.Lookup
import Mathlib.Data.List.Find

/-!
# Names without a filter

The names of a chain are all looked up before any of its filters is run. A chain with a name that
has no filter therefore fails at the first such name, with the whole value that the query has taken
from the scope: what the registered filters of the chain do, before or after that name, makes no
difference. A chain whose names all have filters never fails for a name.

## Main definitions

* `Scope.taken` : the whole value that a query takes from the nodes.
* `Evaluator.firstUnregistered?` : the first call of a chain whose name has no filter.

## Main results

* `Evaluator.runFrom_resolve_of_some` : looking up a chain with such a name.
* `Evaluator.result_evaluateQuery_unknownFilter_iff` : queries that fail for a name.
* `Evaluator.runFrom_unregistered` : a name without a filter fails before any filter is run.
-/

namespace Extraction

open Evaluation

/-- The whole value that a query takes from the nodes, before its filters: the list of all data, or
the datum of the first node, and the empty value if there is no first one. -/
def Scope.taken {ν : Type} (σ : Type) [Scope σ ν] (d : Query.Descriptor) (nodes : List ν) : Value :=
  if d.getAll then .list (Scope.extractAll σ nodes d.attributeName)
  else
    match nodes with
    | [] => .null
    | n :: _ => Scope.extract σ n d.attributeName

/-- Whether a failure is that of a name without a filter. -/
def Failure.isUnknownFilter : Failure → Bool
  | .unknownFilter .. => true
  | _ => false

theorem Failure.isUnknownFilter_ofSelector (selector : String) (problem : Selector.Problem) :
    (Failure.ofSelector selector problem).isUnknownFilter = false := by
  cases problem <;> rfl

namespace Query

theorem isUnknownFilter_refusal (query : Value) (text : String) (cause : Refusal) :
    (refusal query text cause).isUnknownFilter = false := by
  cases cause <;> rfl

/-- A query that cannot be read does not fail for a name. -/
theorem isUnknownFilter_of_meaning {query : Value} {x : Failure} (h : meaning query = .error x) :
    x.isUnknownFilter = false := by
  unfold meaning at h
  cases htext : trimmedText query with
  | error cause =>
    rw [htext] at h
    obtain rfl := Except.error.inj h
    exact isUnknownFilter_refusal query "" cause
  | ok text =>
    rw [htext] at h
    obtain ⟨cause, -, rfl⟩ := Result.mapError_eq_error_iff.1 h
    exact isUnknownFilter_refusal query text cause

end Query

namespace Evaluator

variable (ev : Evaluator)

/-- The first call of a chain whose name has no filter. -/
def firstUnregistered? (calls : List Query.FilterCall) : Option Query.FilterCall :=
  calls.find? fun call => (ev.registry.get? call.name).isNone

variable {ev} {query : String} {v : Value} {calls : List Query.FilterCall}
  {call : Query.FilterCall}

/-! ### Chains -/

/-- A chain with a name that has no filter fails at the first such name. All that it leaves behind
is the notice of this. -/
theorem runFrom_resolve_of_some (h : ev.firstUnregistered? calls = some call) (t : Trace) :
    (ev.resolve query v calls).runFrom t =
      (.error (.unknownFilter call.name ev.registry.names v query),
        { t with
          notices := t.notices ++ [.unknownFilter
            (Failure.unknownFilterMessage call.name ev.registry.names) query] }) := by
  induction calls with
  | nil => cases h
  | cons first calls ih =>
    rw [firstUnregistered?, List.find?_cons] at h
    rw [resolve]
    cases hget : ev.registry.get? first.name with
    | none =>
      rw [hget] at h
      obtain rfl := Option.some.inj h
      rfl
    | some entry =>
      rw [hget] at h
      rw [runFrom_bind, ih h]

/-- A chain whose names all have filters is resolved. -/
theorem exists_steps_of_none (h : ev.firstUnregistered? calls = none) :
    ∃ steps, calls.mapM ev.step? = some steps := by
  induction calls with
  | nil => exact ⟨[], rfl⟩
  | cons first calls ih =>
    rw [firstUnregistered?, List.find?_cons] at h
    cases hget : ev.registry.get? first.name with
    | none =>
      rw [hget] at h
      cases h
    | some entry =>
      rw [hget] at h
      obtain ⟨steps, hsteps⟩ := ih h
      exact ⟨⟨first.name, first.arguments, entry⟩ :: steps, by simp [step?, hget, hsteps]⟩

/-- Steps applied to one value fail for a filter that has failed. -/
theorem exists_filterFailed_of_runChain {steps : List Step} {x : Failure}
    (h : (ev.runChain query steps v).result = .error x) :
    ∃ name w f, x = .filterFailed name w query f := by
  induction steps generalizing v with
  | nil => cases h
  | cons step steps ih =>
    rw [runChain, (ev.settled_runStep query step v).result_bind (ev.settled_runChain query steps),
      Result.bind_eq_error_iff, result_runStep, Result.mapError_eq_error_iff] at h
    obtain ⟨f, -, rfl⟩ | ⟨w, -, h⟩ := h
    · exact ⟨step.name, v, f, rfl⟩
    · exact ih h

/-! ### Queries -/

section Scopes

variable {σ ν : Type} [Scope σ ν] {d : Query.Descriptor} {s : σ} {nodes : List ν}

theorem result_select_ok_iff {selector : Option String} :
    (select s selector : Evaluation (List ν)).result = .ok nodes ↔
      Scope.select s selector = .ok nodes := by
  rw [(settled_select s selector).result_eq_iff]
  simp only [yields_select_ok_iff, exists_and_left, exists_eq, and_true]

/-- A selector that is refused does not fail for a name. -/
theorem isUnknownFilter_of_select {selector : Option String} {x : Failure}
    (h : (select s selector : Evaluation (List ν)).result = .error x) :
    x.isUnknownFilter = false := by
  unfold select at h
  cases hselect : Scope.select s selector with
  | ok nodes =>
    rw [hselect] at h
    cases h
  | error problem =>
    rw [hselect] at h
    have hx : x = .ofSelector (selector.getD "") problem := by
      cases problem with
      | malformed reason => exact (Except.error.inj h).symm
      | fault f => exact (Except.error.inj h).symm
    rw [hx]
    exact Failure.isUnknownFilter_ofSelector _ problem

variable (ev) in
/-- The result of a query is put together from its three stages. -/
theorem result_evaluateQuery (query : String) (s : σ) :
    (ev.evaluateQuery query s).result = (do
      let d ← Query.meaning (.text query)
      let nodes ← (select s d.selector).result
      (ev.answer σ query d nodes).result) := by
  rw [evaluateQuery_eq, (Query.settled_parse _).result_bind fun d =>
    (settled_select s _).bind (ev.settled_answer σ query d), (Query.yields_parse _).result_eq]
  simp only [(settled_select s _).result_bind (ev.settled_answer σ query _)]

/-- A query for the first match applies its chain to what it has taken from the nodes. -/
theorem answer_first_taken (hall : d.getAll = false) :
    ev.answer σ query d nodes = ev.applyChain query d.filters (Scope.taken σ d nodes) :=
  (answer_first hall nodes).trans
    (congrArg (ev.applyChain query d.filters) (if_neg (by simp [hall])).symm)

/-- The nodes of a query with a name that has no filter are not turned into a value: all that
happens is the failure. -/
theorem runFrom_answer_of_some (h : ev.firstUnregistered? d.filters = some call) (t : Trace) :
    (ev.answer σ query d nodes).runFrom t =
      (.error (.unknownFilter call.name ev.registry.names (Scope.taken σ d nodes) query),
        { t with
          notices := t.notices ++ [.unknownFilter
            (Failure.unknownFilterMessage call.name ev.registry.names) query] }) := by
  cases hall : d.getAll with
  | true =>
    unfold answer Scope.taken
    rw [if_pos hall, if_pos hall, runFrom_bind, runFrom_resolve_of_some h]
  | false => rw [answer_first_taken hall, applyChain, runFrom_bind, runFrom_resolve_of_some h]

theorem result_answer_of_some (h : ev.firstUnregistered? d.filters = some call) :
    (ev.answer σ query d nodes).result =
      .error (.unknownFilter call.name ev.registry.names (Scope.taken σ d nodes) query) :=
  congrArg Prod.fst (runFrom_answer_of_some h {})

/-- The nodes of a query whose names all have filters are turned into a value, unless a filter
fails. -/
theorem isUnknownFilter_of_answer (h : ev.firstUnregistered? d.filters = none) {x : Failure}
    (hx : (ev.answer σ query d nodes).result = .error x) : x.isUnknownFilter = false := by
  obtain ⟨steps, hsteps⟩ := exists_steps_of_none h
  cases hall : d.getAll with
  | true =>
    rw [result_answer_all hall hsteps, Result.map_eq_error_iff, result_runChainEach_error_iff] at hx
    obtain ⟨i, j, step, v, f, -, -, rfl⟩ := hx
    rfl
  | false =>
    have hresolve (v : Value) : (ev.resolve query v d.filters).result = .ok steps :=
      (yields_resolve_ok_iff.2 ⟨hsteps, rfl⟩).result_eq
    rw [answer_first_taken hall, applyChain, (ev.settled_resolve ..).result_bind
      fun _ => ev.settled_runChain .., hresolve, Result.ok_bind] at hx
    obtain ⟨name, w, f, rfl⟩ := exists_filterFailed_of_runChain hx
    rfl

/-- A query fails for a name exactly if it can be read, its selector is accepted and its chain has
such a name; the failure is that of the first one. -/
theorem result_evaluateQuery_unknownFilter_iff {x : Failure} :
    (ev.evaluateQuery query s).result = .error x ∧ x.isUnknownFilter = true ↔
      ∃ d nodes call, Query.meaning (.text query) = .ok d ∧
        Scope.select s d.selector = .ok nodes ∧ ev.firstUnregistered? d.filters = some call ∧
        x = .unknownFilter call.name ev.registry.names (Scope.taken σ d nodes) query := by
  rw [result_evaluateQuery]
  constructor
  · rintro ⟨h, hx⟩
    obtain h | ⟨d, hd, h⟩ := Result.bind_eq_error_iff.1 h
    · rw [Query.isUnknownFilter_of_meaning h] at hx
      cases hx
    obtain h | ⟨nodes, hnodes, h⟩ := Result.bind_eq_error_iff.1 h
    · rw [isUnknownFilter_of_select h] at hx
      cases hx
    cases hfirst : ev.firstUnregistered? d.filters with
    | none =>
      rw [isUnknownFilter_of_answer hfirst h] at hx
      cases hx
    | some call =>
      rw [result_answer_of_some hfirst] at h
      exact ⟨d, nodes, call, hd, result_select_ok_iff.1 hnodes, hfirst, (Except.error.inj h).symm⟩
  · rintro ⟨d, nodes, call, hd, hnodes, hfirst, rfl⟩
    rw [hd, Result.ok_bind, result_select_ok_iff.2 hnodes, Result.ok_bind,
      result_answer_of_some hfirst]
    exact ⟨rfl, rfl⟩

variable (ev) in
/-- A query that can be read, whose selector is accepted and whose chain has a name without a filter
does nothing but read the query and fail. -/
theorem runFrom_evaluateQuery_of_some (hd : Query.meaning (.text query) = .ok d)
    (hnodes : Scope.select s d.selector = .ok nodes)
    (hfirst : ev.firstUnregistered? d.filters = some call) {t : Trace} (ht : t.cache.Faithful) :
    let read := ((Query.parse (.text query)).runFrom t).2
    (ev.evaluateQuery query s).runFrom t =
      (.error (.unknownFilter call.name ev.registry.names (Scope.taken σ d nodes) query),
        { read with
          notices := read.notices ++ [.unknownFilter
            (Failure.unknownFilterMessage call.name ev.registry.names) query] }) := by
  intro read
  have hparse : (Query.parse (.text query)).runFrom t = (.ok d, read) :=
    Prod.ext (((Query.yields_parse _).result ht).trans hd) rfl
  have hselect : (select s d.selector : Evaluation (List ν)).runFrom read = (.ok nodes, read) := by
    rw [select, hnodes]
    rfl
  rw [evaluateQuery_eq, runFrom_bind, hparse]
  dsimp only
  rw [runFrom_bind, hselect]
  exact runFrom_answer_of_some hfirst read

/-- Over the built-in filters with an overlay, the first call whose name has no filter is the first
one that they do not provide. -/
theorem firstUnregistered?_merged (overlay : Overlay) (call : Interpreter)
    (calls : List Query.FilterCall) :
    firstUnregistered? ⟨.merged overlay, call⟩ calls =
      calls.find? fun c => !overlay.provides c.name := by
  simp only [firstUnregistered?, ← Registry.isSome_get?_merged, Option.not_isSome]

/-- A chain with names that are not provided has a first one. -/
theorem exists_first_of_exists {overlay : Overlay} {calls : List Query.FilterCall}
    (h : ∃ c ∈ calls, overlay.provides c.name = false) :
    ∃ c, calls.find? (fun c => !overlay.provides c.name) = some c :=
  Option.isSome_iff_exists.1 (by simpa using h)

/-- **A name without a filter fails before any filter is run.** Take any overlay, which may give
anything and have any fault, any query that can be read, in any scope that accepts its selector,
whether it is for every match or for the first one, and whether it finds any node or none, and a
store that reading queries has filled in any way. A name whose last entry in the overlay is the
empty value is one without a filter. If the chain has such names, then all that happens is that the
query is read, if it is not in the store, and that the evaluation fails with the first of them, the
whole value that the query has taken from the scope, and the query as it is written; one notice
tells of this. With any other filters that are listed under the same names, and of which those of
the chain are there for the same names, the result, the notices and the store are the same. If all
names of the chain have filters, the evaluation does not fail for a name. -/
theorem runFrom_unregistered (overlay : Overlay) (call : Interpreter) (s : σ) (query : String)
    (d : Query.Descriptor) (nodes : List ν) (hd : Query.meaning (.text query) = .ok d)
    (hnodes : Scope.select s d.selector = .ok nodes) (capacity : Int) (uses : List Query.Use)
    (ns : List Notice) :
    let ev : Evaluator := ⟨.merged overlay, call⟩
    let t : Trace := ⟨.filled capacity uses, ns⟩
    let run (ev : Evaluator) := (ev.evaluate (.text query) s).runFrom t
    let read := ((Query.parse (.text query)).runFrom t).2
    ((∃ c ∈ d.filters, overlay.provides c.name = false) →
      (∃ c, d.filters.find? (fun c => !overlay.provides c.name) = some c ∧
        run ev =
          (.error (.unknownFilter c.name ev.registry.names (Scope.taken σ d nodes) query),
            { read with
              notices := read.notices ++ [.unknownFilter
                (Failure.unknownFilterMessage c.name ev.registry.names) query] })) ∧
      ∀ ev' : Evaluator, ev'.registry.names = ev.registry.names →
        (∀ c ∈ d.filters, (ev'.registry.get? c.name).isSome = overlay.provides c.name) →
          run ev' = run ev) ∧
    ((∀ c ∈ d.filters, overlay.provides c.name = true) →
      ∀ name known v q, (run ev).1 ≠ .error (.unknownFilter name known v q)) ∧
    ∀ (name : String) (known : List String) (v : Value) (explain : String → String), ∃ report,
      (Failure.unknownFilter name known v query).describe explain = .ok report ∧
        report.kind = "FilterError" ∧
        report.details = [(.text "filter_name", .text name), (.text "value", v),
          (.text "query", .text query)] := by
  intro ev t run read
  have ht : t.cache.Faithful := Query.Cache.faithful_filled capacity uses
  refine ⟨fun hmissing => ?missing, fun hall name known v q h => ?registered,
    fun name known v explain => ⟨_, rfl, rfl, rfl⟩⟩
  case missing =>
    obtain ⟨c, hc⟩ := exists_first_of_exists hmissing
    have hfirst : ev.firstUnregistered? d.filters = some c :=
      (firstUnregistered?_merged overlay call d.filters).trans hc
    have hrun := ev.runFrom_evaluateQuery_of_some hd hnodes hfirst ht
    refine ⟨⟨c, hc, hrun⟩, fun ev' hnames hsame => ?_⟩
    have hfirst' : ev'.firstUnregistered? d.filters = some c := by
      rw [← hc, firstUnregistered?]
      refine List.find?_congr fun b hb => ?_
      rw [← Option.not_isSome, hsame b hb]
    have hrun' := ev'.runFrom_evaluateQuery_of_some hd hnodes hfirst' ht
    rw [hnames] at hrun'
    exact hrun'.trans hrun.symm
  case registered =>
    have hresult : (ev.evaluateQuery query s).result = .error (.unknownFilter name known v q) :=
      ((ev.settled_evaluateQuery query s).outcomeFrom_fst ht).symm.trans h
    obtain ⟨d', nodes', c, hd', -, hfirst, -⟩ :=
      result_evaluateQuery_unknownFilter_iff.1 ⟨hresult, rfl⟩
    obtain rfl := Except.ok.inj (hd.symm.trans hd')
    rw [firstUnregistered?_merged] at hfirst
    have hc := List.find?_some hfirst
    rw [hall c (List.mem_of_find?_eq_some hfirst)] at hc
    cases hc

/-- A chain in which the filter before the unknown name would fail, and one whose name has lost its
filter, each for the first match and for every match. -/
theorem runFrom_unregistered_rows :
    let overlay : Overlay := [("bad", .function "fail" [.text "bad"]), ("trim", .null)]
    let ev : Evaluator := ⟨.merged overlay, Procedure.interpreter⟩
    let ev' : Evaluator := ⟨.merged [("bad", .bool true), ("trim", .null)], fun _ _ => .ok .null⟩
    let page : TableScope := .node [] [("b", [.node [("text", .text "x")] []])]
    let t : Trace := ⟨.filled 1 [.read (.text "b")], []⟩
    let run (query : String) (ev : Evaluator) := (ev.evaluate (.text query) page).runFrom t
    let fails (query name : String) (v : Value) := (run query ev).1 =
      .error (.unknownFilter name ev.registry.names v query)
    fails "[b | bad | nope | gone]" "nope" (.list [.text "x"]) ∧
      run "[b | bad | nope | gone]" ev' = run "[b | bad | nope | gone]" ev ∧
      fails "i | bad | trim" "trim" .null ∧
      ∀ name known v q, (run "b | bad" ev).1 ≠ .error (.unknownFilter name known v q) := by
  intro overlay ev ev' page t run fails
  have hd : Query.meaning (.text "[b | bad | nope | gone]") =
      .ok ⟨some "b", none, [⟨"bad", []⟩, ⟨"nope", []⟩, ⟨"gone", []⟩], true⟩ := by decide +kernel
  have hnone : Query.meaning (.text "i | bad | trim") =
      .ok ⟨some "i", none, [⟨"bad", []⟩, ⟨"trim", []⟩], false⟩ := by decide +kernel
  have hbad : Query.meaning (.text "b | bad") = .ok ⟨some "b", none, [⟨"bad", []⟩], false⟩ := by
    decide +kernel
  obtain ⟨hmissing, -, -⟩ := runFrom_unregistered overlay Procedure.interpreter page _ _ _ hd rfl 1
    [.read (.text "b")] []
  obtain ⟨⟨c, hc, hrun⟩, hsame⟩ := hmissing ⟨⟨"nope", []⟩, by simp, by decide +kernel⟩
  obtain ⟨hlost, -, -⟩ := runFrom_unregistered overlay Procedure.interpreter page _ _ _ hnone rfl 1
    [.read (.text "b")] []
  obtain ⟨⟨c', hc', hrun'⟩, -⟩ := hlost ⟨⟨"trim", []⟩, by simp, by decide +kernel⟩
  obtain ⟨-, hregistered, -⟩ := runFrom_unregistered overlay Procedure.interpreter page _ _ _ hbad
    rfl 1 [.read (.text "b")] []
  obtain rfl : c = ⟨"nope", []⟩ := Option.some.inj (hc.symm.trans (by decide +kernel))
  obtain rfl : c' = ⟨"trim", []⟩ := Option.some.inj (hc'.symm.trans (by decide +kernel))
  refine ⟨congrArg Prod.fst hrun, hsame ev' (by decide +kernel) ?_, congrArg Prod.fst hrun',
    hregistered ?_⟩
  · decide +kernel
  · decide +kernel

end Scopes

end Evaluator

end Extraction
