import Extraction.Proofs.Evaluation.Success
import Extraction.Proofs.Filter.Softness
import Extraction.Proofs.Rule.Conformance
import Extraction.Proofs.Rule.Parts

/-!
# Failures are accounted for

A computation accounts for its failures if each of them is of an allowed kind and is reported in
the notices as often as its kind says: once where a filter or a selector is to blame, and not at
all for other failures. A computation that succeeds reports no error. Computations that are put
together of such ones are such again, and so is the evaluation of a rule that is data, in any scope
whose own failures are allowed.

## Main definitions

* `Notice.errors` : the notices of a list that report an error.
* `Failure.reports` : how many errors a failure reports.
* `Evaluation.Accounted` : a computation that accounts for its failures.
* `Evaluator.Setting` : the scopes that an evaluation visits, the rules that it comes upon, and the
  failures that are allowed.

## Main results

* `Evaluation.Accounted.bind` : one computation after another.
* `Evaluator.Setting.accounted_evaluate` : the value of a rule.
-/

namespace Extraction

/-- The notices of a list that report an error. -/
def Notice.errors (ns : List Notice) : List Notice :=
  ns.filter fun n => n.severity = .error

theorem Notice.errors_append (ns ms : List Notice) : errors (ns ++ ms) = errors ns ++ errors ms :=
  List.filter_append ..

theorem Notice.errors_warnings (ns : List Notice) : errors (warnings ns) = errors ns := by
  rw [errors, warnings, List.filter_filter, errors]
  refine List.filter_congr fun n _ => ?_
  cases h : n.severity <;> simp [Severity.level]

namespace Failure

/-- How many errors a failure reports. -/
def reports : Failure → Nat
  | .unknownFilter .. | .filterFailed .. | .badSelector .. => 1
  | .misuse .. | .refused .. | .fault _ => 0

/-- Whether a failure is one of the evaluation itself, and not of the scope or of a function that
the rule calls. -/
def isOwn : Failure → Bool
  | .misuse .. | .refused .. | .unknownFilter .. | .filterFailed .. => true
  | .badSelector .. | .fault _ => false

end Failure

namespace Evaluation

variable {α β γ : Type} {P : Failure → Prop}

/-- A computation yields a value and reports no error, or it fails with an allowed failure and
reports it as often as it should. -/
def Accounted (P : Failure → Prop) (e : Evaluation α) : Prop :=
  ∃ r ws, e.Yields r ws ∧
    match r with
    | .ok _ => Notice.errors ws = []
    | .error f => P f ∧ (Notice.errors ws).length = f.reports

theorem accounted_pure (a : α) : (pure a : Evaluation α).Accounted P :=
  ⟨_, _, yields_pure a, rfl⟩

theorem accounted_throw {f : Failure} (hf : P f) (hreports : f.reports = 0) :
    (throw f : Evaluation α).Accounted P :=
  ⟨_, _, yields_throw f, hf, hreports.symm⟩

theorem accounted_note {ns : List Notice} (h : Notice.errors ns = []) : (note ns).Accounted P :=
  ⟨_, _, yields_note ns, (Notice.errors_warnings ns).trans h⟩

/-- An error is reported, and then the computation fails for it. -/
theorem accounted_fail {n : Notice} {f : Failure} (hn : n.severity = .error) (hf : P f)
    (hreports : f.reports = 1) :
    (do note [n]; throw f : Evaluation α).Accounted P := by
  refine ⟨_, _, (yields_note [n]).bind (yields_throw f), hf, ?_⟩
  rw [List.append_nil, Notice.errors_warnings, hreports]
  simp [Notice.errors, hn]

/-- A computation goes on with what the one before it has yielded. -/
theorem Accounted.bind {e : Evaluation α} {f : α → Evaluation β} (he : e.Accounted P)
    (hf : ∀ a us, e.Yields (.ok a) us → (f a).Accounted P) : (e >>= f).Accounted P := by
  obtain ⟨r, us, hyields, hr⟩ := he
  cases r with
  | error x => exact ⟨_, _, hyields.bind_error f, hr⟩
  | ok a =>
    obtain ⟨r, vs, hyields', hr'⟩ := hf a us hyields
    refine ⟨_, _, hyields.bind hyields', ?_⟩
    rw [Notice.errors_append, show Notice.errors us = [] from hr, List.nil_append]
    exact hr'

theorem Accounted.mapM {f : γ → Evaluation α} {cs : List γ}
    (hf : ∀ c ∈ cs, (f c).Accounted P) : (cs.mapM f).Accounted P := by
  induction cs with
  | nil => exact accounted_pure _
  | cons c cs ih =>
    obtain ⟨hc, hcs⟩ := List.forall_mem_cons.1 hf
    rw [List.mapM_cons]
    exact hc.bind fun a _ _ => (ih hcs).bind fun as _ _ => accounted_pure _

end Evaluation

open Evaluation

theorem Query.exists_refused (query : Value) (text : String) (cause : Refusal) :
    ∃ cited, refusal query text cause = .refused cause cited := by
  cases cause <;> exact ⟨_, rfl⟩

/-- A query without a descriptor is refused for a cause. -/
theorem Query.exists_refused_of_meaning {query : Value} {f : Failure}
    (h : meaning query = .error f) : ∃ cause cited, f = .refused cause cited := by
  unfold meaning at h
  split at h
  · rename_i cause _
    obtain ⟨cited, hcited⟩ := exists_refused query "" cause
    exact ⟨cause, cited, (Except.error.inj h).symm.trans hcited⟩
  · rename_i text _
    cases hread : Descriptor.read text.toList with
    | ok d =>
      rw [hread] at h
      cases h
    | error cause =>
      rw [hread] at h
      obtain ⟨cited, hcited⟩ := exists_refused query text cause
      exact ⟨cause, cited, (Except.error.inj h).symm.trans hcited⟩

namespace Evaluator

/-! ### Filters -/

section Filters

variable (ev : Evaluator) {P : Failure → Prop} (hown : ∀ f : Failure, f.isOwn = true → P f)

include hown

theorem accounted_resolve (query : String) (v : Value) :
    (calls : List Query.FilterCall) → (ev.resolve query v calls).Accounted P
  | [] => accounted_pure _
  | call :: rest => by
    rw [resolve]
    split
    · exact (accounted_resolve query v rest).bind fun _ _ _ => accounted_pure _
    · exact accounted_fail rfl (hown _ rfl) rfl

variable [Engines]

theorem accounted_runStep (query : String) (step : Step) (v : Value) :
    (ev.runStep query step v).Accounted P := by
  have hsoft := ev.soft_reply step.entry v (step.arguments.map Value.text)
  refine (accounted_note ?_).bind fun _ _ _ => ?_
  · refine List.filter_eq_nil_iff.2 fun n hn => ?_
    simp [hsoft n hn]
  · split
    · exact accounted_pure _
    · exact accounted_fail rfl (hown _ rfl) rfl

theorem accounted_runEach (query : String) (step : Step) (vs : List Value) :
    (ev.runEach query step vs).Accounted P := by
  induction vs with
  | nil => exact accounted_pure _
  | cons v vs ih =>
    exact (ev.accounted_runStep hown query step v).bind fun _ _ _ =>
      ih.bind fun _ _ _ => accounted_pure _

theorem accounted_runChain (query : String) (steps : List Step) (v : Value) :
    (ev.runChain query steps v).Accounted P := by
  induction steps generalizing v with
  | nil => exact accounted_pure _
  | cons step steps ih =>
    exact (ev.accounted_runStep hown query step v).bind fun w _ _ => ih w

theorem accounted_runChainEach (query : String) (steps : List Step) (vs : List Value) :
    (ev.runChainEach query steps vs).Accounted P := by
  induction steps generalizing vs with
  | nil => exact accounted_pure _
  | cons step steps ih =>
    exact (ev.accounted_runEach hown query step vs).bind fun ws _ _ => ih ws

omit [Engines] in
theorem accounted_parse (query : String) : (Query.parse (.text query)).Accounted P := by
  refine ⟨_, _, Query.yields_parse _, ?_⟩
  cases h : Query.meaning (.text query) with
  | ok d => rfl
  | error f =>
    obtain ⟨cause, cited, rfl⟩ := Query.exists_refused_of_meaning h
    exact ⟨hown _ rfl, rfl⟩

theorem accounted_answer {σ ν : Type} [Scope σ ν] (query : String) (d : Query.Descriptor)
    (nodes : List ν) : (ev.answer σ query d nodes).Accounted P := by
  unfold answer
  split
  · exact (ev.accounted_resolve hown _ _ _).bind fun _ _ _ =>
      (ev.accounted_runChainEach hown _ _ _).bind fun _ _ _ => accounted_pure _
  · exact (ev.accounted_resolve hown _ _ _).bind fun _ _ _ => ev.accounted_runChain hown _ _ _

end Filters

/-! ### Rules -/

section Scopes

variable [Engines] {σ ν : Type} [Scope σ ν]

/-- Of an evaluation is known: the scopes that it visits, the rules that it comes upon, none of
which is a function, and the allowed failures, among which are its own ones and those of selecting
nodes for a rule that is a query. -/
structure Setting (C : σ → Prop) (A : Value → Prop) (P : Failure → Prop) : Prop where
  own : ∀ f : Failure, f.isOwn = true → P f
  data : ∀ v, A v → v.isFunction = false
  select : ∀ {query d s}, A (.text query) → Query.meaning (.text query) = .ok d → C s →
    match Scope.select s d.selector with
    | .ok nodes => ∀ n ∈ nodes, C (Scope.enter n)
    | .error problem => P (.ofSelector (d.selector.getD "") problem)

variable {C : σ → Prop} {A : Value → Prop} {P : Failure → Prop}

omit [Engines] in
/-- A query is read and its nodes are selected, and then something is made of them. -/
theorem Setting.accounted_selected {α : Type} (h : Setting C A P) {query : String} {s : σ}
    (hquery : A (.text query)) (hs : C s) {f : Query.Descriptor → List ν → Evaluation α}
    (hf : ∀ d nodes, (∀ n ∈ nodes, C (Scope.enter n)) → (f d nodes).Accounted P) :
    (do let d ← Query.parse (.text query)
        let nodes ← Evaluator.select s d.selector
        f d nodes : Evaluation α).Accounted P := by
  refine (accounted_parse h.own query).bind fun d _ hd => ?_
  have hselect := h.select hquery (Query.yields_parse_ok_iff.1 hd).1 hs
  refine Accounted.bind ?_ fun nodes _ hnodes => hf d nodes ?_
  · unfold Evaluator.select
    split
    · exact accounted_pure _
    · rename_i problem hproblem
      rw [hproblem] at hselect
      cases problem with
      | malformed reason => exact accounted_fail rfl hselect rfl
      | fault f => exact accounted_throw hselect rfl
  · rw [(yields_select_ok_iff.1 hnodes).1] at hselect
    exact hselect

variable (ev : Evaluator)

private theorem Setting.accounted_all (h : Setting C A P) :
    (∀ (rule : Value) (s : σ), (∀ v ∈ Rule.parts rule, A v) → C s →
        (ev.evaluate rule s).Accounted P) ∧
      (∀ (whole : Value) (items : List Value) (s : σ), (∀ v ∈ Rule.partsOfItems items, A v) → C s →
        (ev.evaluateItems whole items s).Accounted P) ∧
      ∀ (entries : Entries) (s : σ), (∀ v ∈ Rule.partsOfEntries entries, A v) → C s →
        (ev.evaluateFields entries s).Accounted P := by
  refine evaluate.mutual_induct (σ := σ) _ _ _ ?text ?map ?list ?tuple ?function ?null ?other
    ?empty ?misarranged ?pipeline ?divided ?noField ?field
  case text =>
    intro query s hparts hs
    exact h.accounted_selected (hparts _ (Rule.mem_parts_self _)) hs fun d nodes _ =>
      ev.accounted_answer h.own query d nodes
  case map =>
    intro entries s ih hparts hs
    exact (ih (fun v hv => hparts v (List.mem_cons_of_mem _ hv)) hs).bind fun _ _ _ =>
      accounted_pure _
  case list => exact fun items s ih hparts => ih fun v hv => hparts v (List.mem_cons_of_mem _ hv)
  case tuple => exact fun items s ih hparts => ih fun v hv => hparts v (List.mem_cons_of_mem _ hv)
  case function =>
    intro name captured s hparts
    cases h.data _ (hparts _ (Rule.mem_parts_self _))
  case null => exact fun s _ _ => accounted_throw (h.own _ rfl) rfl
  case other =>
    intro other s htext hmap hlist htuple hfunction hnull _ _
    rw [evaluate]
    · exact accounted_throw (h.own _ rfl) rfl
    all_goals assumption
  case empty => exact fun whole s _ _ => accounted_throw (h.own _ rfl) rfl
  case misarranged =>
    intro whole lead rest s problem harr _ _
    rw [evaluateItems, harr]
    exact accounted_throw (h.own _ rfl) rfl
  case pipeline =>
    intro whole lead rest s harr ih hparts hs
    obtain ⟨hlead, hrest⟩ := List.forall_mem_append.1 hparts
    cases rest with
    | nil =>
      rw [evaluateItems, harr]
      exact (ih hlead hs).bind fun v _ _ => accounted_pure v
    | cons second more =>
      -- A pipeline of more than one item has a function in it.
      have hdata := h.data second
        (hrest second (List.mem_append_left _ (Rule.mem_parts_self second)))
      rw [Rule.isFunction_of_arrangement harr] at hdata
      cases hdata
  case divided =>
    intro whole lead rest s query harr ih hparts hs
    obtain ⟨hlead, hrest⟩ := List.forall_mem_append.1 hparts
    obtain ⟨rfl, -⟩ := Rule.arrangement_eq_divided_iff.1 harr
    rw [ev.evaluateItems_divided harr]
    refine h.accounted_selected (hlead _ (Rule.mem_parts_self _)) hs fun d nodes hnodes => ?_
    unfold divide
    split
    · exact (Accounted.mapM fun n hn => ih n hrest (hnodes n hn)).bind fun _ _ _ =>
        accounted_pure _
    · split
      · exact accounted_pure _
      · exact ih _ hrest (hnodes _ List.mem_cons_self)
  case noField => exact fun s _ _ => accounted_pure _
  case field =>
    intro key rule rest s ih ihs hparts hs
    obtain ⟨hrule, hrest⟩ := List.forall_mem_append.1 hparts
    exact (ih hrule hs).bind fun v _ _ => (ihs hrest hs).bind fun _ _ _ => accounted_pure _

/-- The evaluation of a rule accounts for its failures. -/
theorem Setting.accounted_evaluate (h : Setting C A P) {rule : Value}
    (hrule : ∀ v ∈ Rule.parts rule, A v) {s : σ} (hs : C s) : (ev.evaluate rule s).Accounted P :=
  (h.accounted_all ev).1 rule s hrule hs

end Scopes

end Evaluator

end Extraction
