import Extraction.Proofs.Evaluation.Settled

/-!
# Successful evaluations

What it takes for the parts of an evaluation to succeed, and what they yield then. A query gives
its value in three stages: it is read, its selector finds nodes, and these are turned into a value
by the filters; a divided list goes on with the nodes in the same way. The text of a query is used
in failures only, so filters that succeed do so under any query.

## Main definitions

* `Evaluator.step?` : the step that a call of a filter stands for.
* `Evaluator.applyChain` : a chain of filters applied to one value.
* `Evaluator.answer` : the value that a query gives to the nodes that it has selected.
* `Evaluator.deal` : what is made of the selected nodes, each in its own scope.
* `Evaluator.divide` : the value of the rest of a divided list for the nodes that its first item
  has selected.

## Main results

* `Evaluator.yields_resolve_ok_iff`, `Evaluator.yields_runStep_ok_iff` : filters that succeed.
* `Evaluator.yields_evaluateQuery_ok_iff` : queries that succeed.
* `Evaluator.yields_evaluateItems_divided_ok_iff` : divided lists that succeed.
-/

namespace Extraction

namespace Evaluation

variable {α β : Type}

theorem yields_throw_iff {f : Failure} {r : Except Failure α} {ws : List Notice} :
    (throw f : Evaluation α).Yields r ws ↔ r = .error f ∧ ws = [] := by
  constructor
  · intro h
    exact h.unique (yields_throw f)
  · rintro ⟨rfl, rfl⟩
    exact yields_throw f

theorem not_yields_throw_ok {f : Failure} {a : α} {ws : List Notice} :
    ¬(throw f : Evaluation α).Yields (.ok a) ws := by
  rw [yields_throw_iff]
  rintro ⟨h, -⟩
  cases h

end Evaluation

open Evaluation

theorem Query.yields_parse_ok_iff {query : Value} {d : Descriptor} {ws : List Notice} :
    (parse query).Yields (.ok d) ws ↔ meaning query = .ok d ∧ ws = [] := by
  constructor
  · intro h
    obtain ⟨hr, hws⟩ := h.unique (yields_parse query)
    exact ⟨hr.symm, hws⟩
  · rintro ⟨h, rfl⟩
    rw [← h]
    exact yields_parse query

namespace Evaluator

variable (ev : Evaluator)

/-! ### Filters -/

/-- The step that a call of a filter stands for, if there is such a filter. -/
def step? (call : Query.FilterCall) : Option Step :=
  (ev.registry.get? call.name).map fun entry => ⟨call.name, call.arguments, entry⟩

/-- A chain of filters applied to one value. -/
def applyChain [Engines] (query : String) (calls : List Query.FilterCall) (v : Value) :
    Evaluation Value := do
  let steps ← ev.resolve query v calls
  ev.runChain query steps v

variable {ev}

/-- A chain is resolved if there is a filter for each of its calls. -/
theorem yields_resolve_ok_iff {query : String} {v : Value} {calls : List Query.FilterCall}
    {steps : List Step} {ws : List Notice} :
    (ev.resolve query v calls).Yields (.ok steps) ws ↔
      calls.mapM ev.step? = some steps ∧ ws = [] := by
  induction calls generalizing steps ws with
  | nil =>
    rw [resolve, yields_pure_ok_iff, List.mapM_nil, eq_comm]
    simp
  | cons call calls ih =>
    rw [resolve, List.mapM_cons]
    cases h : ev.registry.get? call.name with
    | none =>
      have hstep : ev.step? call = none := by rw [step?, h]; rfl
      rw [hstep]
      refine iff_of_false (fun hy => ?_) (by simp)
      obtain ⟨hr, -⟩ := hy.unique ((yields_note _).bind (yields_throw _))
      cases hr
    | some entry =>
      have hstep : ev.step? call = some ⟨call.name, call.arguments, entry⟩ := by
        rw [step?, h]; rfl
      rw [hstep, yields_map_ok_iff (ev.settled_resolve query v calls)]
      simp only [ih]
      constructor
      · rintro ⟨steps', ⟨hsteps, rfl⟩, rfl⟩
        exact ⟨by simp [hsteps], rfl⟩
      · rintro ⟨hsteps, rfl⟩
        cases hrest : calls.mapM ev.step? with
        | none => simp [hrest] at hsteps
        | some steps' =>
          refine ⟨steps', ⟨rfl, rfl⟩, ?_⟩
          simpa [hrest] using hsteps.symm

variable [Engines]

theorem yields_runStep_of_ok {query : String} {step : Step} {v w : Value}
    (h : (ev.reply step.entry v (step.arguments.map Value.text)).outcome = .ok w) :
    (ev.runStep query step v).Yields (.ok w)
      (Notice.warnings (ev.reply step.entry v (step.arguments.map Value.text)).notices) := by
  have hnote := yields_note (ev.reply step.entry v (step.arguments.map Value.text)).notices
  simpa only [runStep, h, List.append_nil] using hnote.bind (f := fun _ => pure w) (yields_pure w)

theorem yields_runStep_of_error {query : String} {step : Step} {v : Value} {f : Fault}
    (h : (ev.reply step.entry v (step.arguments.map Value.text)).outcome = .error f) :
    (ev.runStep query step v).Yields (.error (.filterFailed step.name v query f))
      (Notice.warnings (ev.reply step.entry v (step.arguments.map Value.text)).notices ++
        [.filterFailed (Failure.filterFailedMessage step.name query f)]) := by
  have hnote := yields_note (ev.reply step.entry v (step.arguments.map Value.text)).notices
  have hfail : (do
      note [.filterFailed (Failure.filterFailedMessage step.name query f)]
      throw (.filterFailed step.name v query f) : Evaluation Value).Yields
        (.error (.filterFailed step.name v query f))
        [.filterFailed (Failure.filterFailedMessage step.name query f)] :=
    (yields_note _).bind (yields_throw _)
  simpa only [runStep, h] using hnote.bind (f := fun _ => _) hfail

/-- A filter that succeeds leaves its own warnings and nothing else. -/
theorem yields_runStep_ok_iff {query : String} {step : Step} {v w : Value} {ws : List Notice} :
    (ev.runStep query step v).Yields (.ok w) ws ↔
      (ev.reply step.entry v (step.arguments.map Value.text)).outcome = .ok w ∧
        ws = Notice.warnings (ev.reply step.entry v (step.arguments.map Value.text)).notices := by
  constructor
  · intro hy
    cases h : (ev.reply step.entry v (step.arguments.map Value.text)).outcome with
    | ok w' =>
      obtain ⟨hr, hws⟩ := hy.unique (yields_runStep_of_ok h)
      cases hr
      exact ⟨rfl, hws⟩
    | error f =>
      obtain ⟨hr, -⟩ := hy.unique (yields_runStep_of_error h)
      cases hr
  · rintro ⟨h, rfl⟩
    exact yields_runStep_of_ok h

theorem yields_runEach_cons_ok_iff {query : String} {step : Step} {v : Value} {vs ws : List Value}
    {us : List Notice} :
    (ev.runEach query step (v :: vs)).Yields (.ok ws) us ↔
      ∃ w ws' us₁ us₂, (ev.runStep query step v).Yields (.ok w) us₁ ∧
        (ev.runEach query step vs).Yields (.ok ws') us₂ ∧ ws = w :: ws' ∧ us = us₁ ++ us₂ := by
  rw [runEach, yields_bind_ok_iff (ev.settled_runStep query step v)
    fun _ => (ev.settled_runEach query step vs).bind fun _ => settled_pure _]
  simp only [yields_map_ok_iff (ev.settled_runEach query step vs)]
  constructor
  · rintro ⟨w, us₁, us₂, hw, ⟨ws', hws', rfl⟩, rfl⟩
    exact ⟨w, ws', us₁, us₂, hw, hws', rfl, rfl⟩
  · rintro ⟨w, ws', us₁, us₂, hw, hws', rfl, rfl⟩
    exact ⟨w, us₁, us₂, hw, ⟨ws', hws', rfl⟩, rfl⟩

/-- One step applied to several values yields as many. -/
theorem length_of_yields_runEach {query : String} {step : Step} {vs ws : List Value}
    {us : List Notice} (h : (ev.runEach query step vs).Yields (.ok ws) us) :
    ws.length = vs.length := by
  induction vs generalizing ws us with
  | nil =>
    rw [runEach, yields_pure_ok_iff] at h
    rw [h.1]
  | cons v vs ih =>
    obtain ⟨w, ws', us₁, us₂, -, hws', rfl, -⟩ := yields_runEach_cons_ok_iff.1 h
    rw [List.length_cons, List.length_cons, ih hws']

/-- Steps applied to several values yield as many. -/
theorem length_of_yields_runChainEach {query : String} {steps : List Step} {vs ws : List Value}
    {us : List Notice} (h : (ev.runChainEach query steps vs).Yields (.ok ws) us) :
    ws.length = vs.length := by
  induction steps generalizing vs us with
  | nil =>
    rw [runChainEach, yields_pure_ok_iff] at h
    rw [h.1]
  | cons step steps ih =>
    rw [runChainEach, yields_bind_ok_iff (ev.settled_runEach query step vs)
      fun _ => ev.settled_runChainEach query steps _] at h
    obtain ⟨vs', us₁, us₂, hvs', h, -⟩ := h
    rw [ih h, length_of_yields_runEach hvs']

/-! ### Scopes -/

section Scopes

variable {σ ν : Type} [Scope σ ν]

omit [Engines] in
theorem yields_select_ok_iff {s : σ} {selector : Option String} {nodes : List ν}
    {ws : List Notice} :
    (select s selector).Yields (.ok nodes) ws ↔ Scope.select s selector = .ok nodes ∧ ws = [] := by
  unfold select
  cases Scope.select s selector with
  | ok found => rw [yields_pure_ok_iff, Except.ok.injEq, eq_comm]
  | error problem =>
    refine iff_of_false (fun hy => ?_) (fun hy => by cases hy.1)
    cases problem with
    | malformed reason =>
      obtain ⟨hr, -⟩ := hy.unique ((yields_note _).bind (yields_throw _))
      cases hr
    | fault f => exact not_yields_throw_ok hy

variable (ev) (σ) in
/-- The value that a query gives to the nodes that it has selected. -/
def answer (query : String) (d : Query.Descriptor) (nodes : List ν) : Evaluation Value :=
  if d.getAll then do
    let vs := Scope.extractAll σ nodes d.attributeName
    let steps ← ev.resolve query (.list vs) d.filters
    return .list (← ev.runChainEach query steps vs)
  else
    ev.applyChain query d.filters <|
      match nodes with
      | [] => .null
      | n :: _ => Scope.extract σ n d.attributeName

/-- What is made of the nodes that the first item of a divided list has selected: a list of what
there is in the scope of each, or what there is in the scope of the first one. If there is no first
one, the value is empty. -/
def deal (level : σ → Evaluation Value) (getAll : Bool) (nodes : List ν) : Evaluation Value :=
  if getAll then
    return .list (← nodes.mapM fun n => level (Scope.enter n))
  else
    match nodes with
    | [] => return .null
    | n :: _ => level (Scope.enter n)

variable (ev) (σ) in
/-- The value of the rest of a divided list for the nodes that its first item has selected. -/
def divide (getAll : Bool) (rest : List Value) (nodes : List ν) : Evaluation Value :=
  if getAll then
    return .list (← nodes.mapM fun n => ev.evaluateItems (.list rest) rest (Scope.enter n : σ))
  else
    match nodes with
    | [] => return .null
    | n :: _ => ev.evaluateItems (.list rest) rest (Scope.enter n : σ)

variable (ev) in
theorem evaluateQuery_eq (query : String) (s : σ) :
    ev.evaluateQuery query s = (do
      let d ← Query.parse (.text query)
      let nodes ← select s d.selector
      ev.answer σ query d nodes) :=
  rfl

variable (ev) in
theorem evaluateItems_divided {lead : Value} {rest : List Value} {query : String}
    (h : Rule.arrangement lead rest = .ok (.divided query)) (whole : Value) (s : σ) :
    ev.evaluateItems whole (lead :: rest) s = (do
      let d ← Query.parse (.text query)
      let nodes ← select s d.selector
      ev.divide σ d.getAll rest nodes) := by
  rw [evaluateItems, h]
  rfl

variable (ev) in
theorem settled_applyChain (query : String) (calls : List Query.FilterCall) (v : Value) :
    (ev.applyChain query calls v).Settled :=
  (ev.settled_resolve query v calls).bind fun _ => ev.settled_runChain query _ v

variable (ev) (σ) in
theorem settled_answer (query : String) (d : Query.Descriptor) (nodes : List ν) :
    (ev.answer σ query d nodes).Settled := by
  unfold answer
  split
  · exact (ev.settled_resolve _ _ _).bind fun _ =>
      (ev.settled_runChainEach _ _ _).bind fun _ => settled_pure _
  · exact ev.settled_applyChain _ _ _

omit [Engines] in
theorem settled_deal {level : σ → Evaluation Value} (h : ∀ a, (level a).Settled) (getAll : Bool)
    (nodes : List ν) : (deal level getAll nodes).Settled := by
  unfold deal
  split
  · exact (Settled.mapM (fun _ => h _) nodes).bind fun _ => settled_pure _
  · split
    · exact settled_pure _
    · exact h _

variable (ev) (σ) in
theorem settled_divide (getAll : Bool) (rest : List Value) (nodes : List ν) :
    (ev.divide σ getAll rest nodes).Settled :=
  settled_deal (fun a : σ => ev.settled_evaluateItems (.list rest) rest a) getAll nodes

/-- A chain applied to one value succeeds if there is a filter for each of its calls and the steps
succeed. -/
theorem yields_applyChain_ok_iff {query : String} {calls : List Query.FilterCall} {v w : Value}
    {ws : List Notice} :
    (ev.applyChain query calls v).Yields (.ok w) ws ↔
      ∃ steps, calls.mapM ev.step? = some steps ∧
        (ev.runChain query steps v).Yields (.ok w) ws := by
  unfold applyChain
  rw [yields_bind_ok_iff (ev.settled_resolve query v calls) fun _ => ev.settled_runChain query _ v]
  simp only [yields_resolve_ok_iff]
  constructor
  · rintro ⟨steps, -, ws, ⟨hsteps, rfl⟩, h, rfl⟩
    exact ⟨steps, hsteps, h⟩
  · rintro ⟨steps, hsteps, h⟩
    exact ⟨steps, [], ws, ⟨hsteps, rfl⟩, h, rfl⟩

/-- A query for every match makes a list of the data of the nodes, with the steps applied to all of
them. -/
theorem yields_answer_all_ok_iff {query : String} {d : Query.Descriptor} (hall : d.getAll = true)
    {nodes : List ν} {v : Value} {ws : List Notice} :
    (ev.answer σ query d nodes).Yields (.ok v) ws ↔
      ∃ steps results, d.filters.mapM ev.step? = some steps ∧
        (ev.runChainEach query steps (Scope.extractAll σ nodes d.attributeName)).Yields
          (.ok results) ws ∧ v = .list results := by
  unfold answer
  rw [if_pos hall, yields_bind_ok_iff (ev.settled_resolve ..)
    fun _ => (ev.settled_runChainEach ..).bind fun _ => settled_pure _]
  simp only [yields_resolve_ok_iff, yields_map_ok_iff (ev.settled_runChainEach ..)]
  constructor
  · rintro ⟨steps, -, ws, ⟨hsteps, rfl⟩, ⟨results, h, rfl⟩, rfl⟩
    exact ⟨steps, results, hsteps, h, rfl⟩
  · rintro ⟨steps, results, hsteps, h, rfl⟩
    exact ⟨steps, [], ws, ⟨hsteps, rfl⟩, ⟨results, h, rfl⟩, rfl⟩

/-- A query for the first match applies its chain to the datum of the first node, or to the empty
value if there is none. -/
theorem answer_first {query : String} {d : Query.Descriptor} (hall : d.getAll = false)
    (nodes : List ν) :
    ev.answer σ query d nodes =
      ev.applyChain query d.filters
        (match nodes with
          | [] => .null
          | n :: _ => Scope.extract σ n d.attributeName) := by
  unfold answer
  rw [if_neg (by simp [hall])]

/-- Where the first item of a divided list is for every match, the rest is evaluated for each of
the nodes. -/
theorem divide_all (rest : List Value) (nodes : List ν) :
    ev.divide σ true rest nodes = (do
      return .list (← nodes.mapM fun n =>
        ev.evaluateItems (.list rest) rest (Scope.enter n : σ))) :=
  rfl

omit [Engines] in
/-- A query is read and its nodes are selected, and then something is made of them. -/
theorem yields_selected_ok_iff {α : Type} {query : String} {s : σ}
    {f : Query.Descriptor → List ν → Evaluation α} (hf : ∀ d nodes, (f d nodes).Settled) {a : α}
    {ws : List Notice} :
    (do let d ← Query.parse (.text query)
        let nodes ← select s d.selector
        f d nodes : Evaluation α).Yields (.ok a) ws ↔
      ∃ d nodes, Query.meaning (.text query) = .ok d ∧ Scope.select s d.selector = .ok nodes ∧
        (f d nodes).Yields (.ok a) ws := by
  rw [yields_bind_ok_iff (Query.settled_parse _) fun d => (settled_select s _).bind (hf d)]
  simp only [Query.yields_parse_ok_iff, yields_bind_ok_iff (settled_select s _) (hf _),
    yields_select_ok_iff]
  constructor
  · rintro ⟨d, -, ws, ⟨hd, rfl⟩, ⟨nodes, -, vs, ⟨hnodes, rfl⟩, h, rfl⟩, rfl⟩
    exact ⟨d, nodes, hd, hnodes, h⟩
  · rintro ⟨d, nodes, hd, hnodes, h⟩
    exact ⟨d, [], ws, ⟨hd, rfl⟩, ⟨nodes, [], ws, ⟨hnodes, rfl⟩, h, rfl⟩, rfl⟩

/-- A query succeeds if it has a descriptor, its selector is accepted and the nodes are turned into
a value. -/
theorem yields_evaluateQuery_ok_iff {query : String} {s : σ} {v : Value} {ws : List Notice} :
    (ev.evaluateQuery query s).Yields (.ok v) ws ↔
      ∃ d nodes, Query.meaning (.text query) = .ok d ∧ Scope.select s d.selector = .ok nodes ∧
        (ev.answer σ query d nodes).Yields (.ok v) ws := by
  rw [evaluateQuery_eq]
  exact yields_selected_ok_iff (ev.settled_answer σ query)

/-- A divided list succeeds if its first item has a descriptor, the selector is accepted and the
rest succeeds for the nodes. -/
theorem yields_evaluateItems_divided_ok_iff {lead : Value} {rest : List Value} {query : String}
    (h : Rule.arrangement lead rest = .ok (.divided query)) {whole : Value} {s : σ} {v : Value}
    {ws : List Notice} :
    (ev.evaluateItems whole (lead :: rest) s).Yields (.ok v) ws ↔
      ∃ d nodes, Query.meaning (.text query) = .ok d ∧ Scope.select s d.selector = .ok nodes ∧
        (ev.divide σ d.getAll rest nodes).Yields (.ok v) ws := by
  rw [ev.evaluateItems_divided h]
  exact yields_selected_ok_iff fun d => ev.settled_divide σ d.getAll rest

end Scopes

end Evaluator

end Extraction
