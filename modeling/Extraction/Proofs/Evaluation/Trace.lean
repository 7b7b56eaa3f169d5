import Extraction.Evaluation

/-!
# Traces of computations

What a computation shows of itself is its result and those of its notices that are at least
warnings; the notices below that level speak of the store of descriptors. This file says what the
basic computations make of a trace.

## Main definitions

* `Notice.warnings` : the notices of a list that are at least warnings.
* `Evaluation.outcomeFrom` : the result of a computation that begins with a trace, and the warnings
  that it leaves.

## Main results

* `Evaluation.runFrom_bind` : one computation after another.
* `Query.runFrom_parse` : what reading a query by way of the store gives and leaves.
-/

namespace Extraction

/-- The notices of a list that are at least warnings. -/
def Notice.warnings (ns : List Notice) : List Notice :=
  ns.filter fun n => Severity.warning.level ≤ n.severity.level

theorem Notice.warnings_append (ns ms : List Notice) :
    warnings (ns ++ ms) = warnings ns ++ warnings ms :=
  List.filter_append ..

namespace Evaluation

variable {α β : Type}

/-- The result of a computation that begins with a trace, and the warnings that it leaves. -/
def outcomeFrom (t : Trace) (e : Evaluation α) : Except Failure α × List Notice :=
  ((e.runFrom t).1, Notice.warnings ((e.runFrom t).2.notices.drop t.notices.length))

@[simp] theorem runFrom_pure (a : α) (t : Trace) :
    (pure a : Evaluation α).runFrom t = (.ok a, t) :=
  rfl

@[simp] theorem runFrom_throw (f : Failure) (t : Trace) :
    (throw f : Evaluation α).runFrom t = (.error f, t) :=
  rfl

@[simp] theorem runFrom_get (t : Trace) : (get : Evaluation Trace).runFrom t = (.ok t, t) :=
  rfl

@[simp] theorem runFrom_note (ns : List Notice) (t : Trace) :
    (note ns).runFrom t = (.ok (), { t with notices := t.notices ++ ns }) :=
  rfl

/-- A computation goes on from the trace of the one before it, unless that one has failed. -/
theorem runFrom_bind (e : Evaluation α) (f : α → Evaluation β) (t : Trace) :
    (e >>= f).runFrom t =
      match e.runFrom t with
      | (.ok a, t') => (f a).runFrom t'
      | (.error x, t') => (.error x, t') := by
  simp only [runFrom, ExceptT.run_bind, StateT.run_bind]
  rcases StateT.run (ExceptT.run e) t with ⟨_ | _, _⟩
  · rfl
  · rfl

/-- Wrapping the result of a computation wraps it in the outcome. -/
theorem outcomeFrom_map (e : Evaluation α) (g : α → β) (t : Trace) :
    outcomeFrom t (e >>= fun a => pure (g a)) =
      ((e.outcomeFrom t).1.map g, (e.outcomeFrom t).2) := by
  simp only [outcomeFrom, runFrom_bind]
  rcases e.runFrom t with ⟨_ | _, _⟩
  · rfl
  · rfl

end Evaluation

namespace Query

/-- A text that is neither blank nor too long is only trimmed. -/
theorem trimmedText_text {text : String} (hblank : Text.trim text.toList ≠ [])
    (hlong : (Text.trim text.toList).length ≤ maxLength) :
    trimmedText (.text text) = .ok (String.ofList (Text.trim text.toList)) := by
  have hempty : ¬(Text.trim text.toList).isEmpty = true := fun h => hblank (List.isEmpty_iff.1 h)
  simp only [trimmedText, if_neg hempty, if_neg (Nat.not_lt.2 hlong)]

/-- A query that is refused before its text is read leaves the trace as it is; so does one whose
descriptor is in the store. Any other query is read, and its descriptor is put into the store. -/
theorem runFrom_parse (query : Value) (t : Trace) :
    (parse query).runFrom t =
      match trimmedText query with
      | .error cause => (.error (refusal query "" cause), t)
      | .ok text =>
        match t.cache.get? text with
        | some d => (.ok d, t)
        | none =>
          match Descriptor.read text.toList with
          | .error cause =>
            (.error (refusal query text cause),
              { t with notices := t.notices ++ [.cacheMiss text] })
          | .ok d =>
            (.ok d,
              ⟨(t.cache.put text d).2, t.notices ++ [.cacheMiss text] ++ [.queryRead text d]⟩) := by
  unfold parse
  cases trimmedText query with
  | error cause => rfl
  | ok text =>
    simp only [Evaluation.runFrom_bind, Evaluation.runFrom_get]
    cases t.cache.get? text with
    | some d => rfl
    | none =>
      simp only [Evaluation.runFrom_bind, Evaluation.runFrom_note]
      cases Descriptor.read text.toList with
      | error cause => rfl
      | ok d => rfl

end Query

end Extraction
