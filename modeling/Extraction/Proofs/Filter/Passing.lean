import Extraction.Proofs.Evaluation.Trace

/-!
# Values that filters pass on

Filters of texts, of items and of both leave values of any other kind as they are, whatever their
arguments hold: no argument is read before the kind of the value is known. So a chain of such
filters hands a value that a selection has not found through to its end.

## Main definitions

* `Filter.Builtin.worksOn` : whether a filter works on values of a kind.
* `Evaluator.Step.Passes` : a step is a call of a built-in filter that does not work on a value.

## Main results

* `Filter.Builtin.run_of_not_worksOn` : such a filter gives the value itself, without a notice.
* `Filter.Builtin.worksOn_null_iff` : the filters that work on missing values.
* `Evaluator.runFrom_runChain_of_passes` : chains of filters that do not work on a value.
-/

namespace Extraction

/-- Whether a value is a text. -/
def Value.isText : Value → Bool
  | .text _ => true
  | _ => false

namespace Filter.Builtin

/-- Whether a built-in filter works on a value: some work on texts, some on the items of lists and
tuples, some on both and some on everything. -/
def worksOn (b : Builtin) (v : Value) : Bool :=
  match b with
  | trim | reverse | regex | replace | split | capitalize | upper | lower | title | size => v.isText
  | slice | length | first | last => v.isText || v.isSequence
  | join | unique | sort | compact => v.isSequence
  | toInteger | toFloat | toBool | number | date => true

variable {b : Builtin} {v : Value}

theorem apply_of_not_worksOn (h : b.worksOn v = false) (arguments : List Value) :
    b.apply v arguments = .ok v := by
  cases b with
  | toInteger | toFloat | toBool | number | date => cases h
  | trim | reverse | regex | replace | split | capitalize | upper | lower | title | size =>
    cases v with
    | text s => cases h
    | _ => rfl
  | slice | length | first | last =>
    cases v with
    | text s | list items | tuple items => cases h
    | _ => rfl
  | join | unique | sort | compact =>
    cases v with
    | list items | tuple items => cases h
    | _ => rfl

/-- Missing values are read by the filters that give numbers, truth values and moments, and by no
others. -/
theorem worksOn_null_iff :
    b.worksOn .null = true ↔ b ∈ [toInteger, toFloat, toBool, number, date] := by
  cases b <;> decide

/-- **Values that filters pass on.** Take any built-in filter, a value that it does not work on, and
any arguments, as many as the filter takes. The filter gives the value itself, with no fault and no
notice. -/
theorem run_of_not_worksOn {arguments : List Value}
    (hcount : b.arity.fault? arguments.length = none) (h : b.worksOn v = false) :
    b.run v arguments = .ok v :=
  (run_of_fault?_eq_none hcount v).trans (apply_of_not_worksOn h arguments)

/-- A pattern that cannot be read, with a number for its flags, is not looked at where there is no
text. -/
theorem run_replace_null :
    replace.arity.fault? [Value.text "(", .null, .int 0].length = none ∧
      replace.worksOn .null = false ∧
        replace.run .null [.text "(", .null, .int 0] = .ok .null :=
  ⟨rfl, rfl, run_of_not_worksOn rfl rfl⟩

end Filter.Builtin

namespace Evaluator

/-- A step calls a built-in filter, with as many arguments as the filter takes, and the filter does
not work on a value. -/
def Step.Passes (step : Step) (v : Value) : Prop :=
  ∃ b : Filter.Builtin, step.entry = .builtin b ∧
    b.arity.fault? step.arguments.length = none ∧ b.worksOn v = false

variable (ev : Evaluator) {v : Value}

/-- A step that a value passes leaves both the value and the trace as they are. -/
theorem runFrom_runStep_of_passes (query : String) {step : Step} (h : step.Passes v) (t : Trace) :
    (ev.runStep query step v).runFrom t = (.ok v, t) := by
  obtain ⟨b, hentry, hcount, hworks⟩ := h
  have hreply : ev.reply step.entry v (step.arguments.map Value.text) = .ok v := by
    rw [hentry, reply, Filter.Builtin.run_of_fault?_eq_none (by rwa [List.length_map])]
    exact Filter.Builtin.apply_of_not_worksOn hworks _
  simp only [runStep, hreply, Reply.ok, Evaluation.runFrom_bind, Evaluation.runFrom_note,
    List.append_nil, Evaluation.runFrom_pure]

/-- A value that passes every step of a chain comes out of it, and the trace is as it was. -/
theorem runFrom_runChain_of_passes (query : String) {steps : List Step}
    (h : ∀ step ∈ steps, step.Passes v) (t : Trace) :
    (ev.runChain query steps v).runFrom t = (.ok v, t) := by
  induction steps with
  | nil => rfl
  | cons step rest ih =>
    obtain ⟨hstep, hrest⟩ := List.forall_mem_cons.1 h
    rw [runChain, Evaluation.runFrom_bind, ev.runFrom_runStep_of_passes query hstep]
    exact ih hrest

end Evaluator

end Extraction
