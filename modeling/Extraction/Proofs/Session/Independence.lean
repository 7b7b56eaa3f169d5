import Extraction.Proofs.Evaluation.Documents
import Extraction.Proofs.Evaluation.Result
import Extraction.Proofs.Filter.Layers
import Extraction.Session

/-!
# Acts of a session do not depend on each other

A session keeps descriptors from act to act, and so do others who use the same stores in between.
None of this shows: whatever has been done in a session and to its stores, an act has the outcome
that it has alone in a session that keeps no descriptors and in which nothing has been done. Only
the acts that ask for the size of a store answer with it.

## Main definitions

* `Session.Act`, `Session.perform` : a step, or a rule that is evaluated in a scope of the caller.
* `Session.Event`, `Session.after` : what happens in a session and to its stores.
* `Session.outcome` : what an act answers, and the warnings that it leaves.
* `Session.alone` : a session without descriptors in which nothing has been done.

## Main results

* `Session.outcome_step_eq` : a step of a session with faithful stores.
* `Session.outcome_after` : acts are independent of the past.
-/

namespace Extraction

open Evaluation

/-- An extractor whose sessions keep no descriptors. -/
def Extractor.withoutStore (x : Extractor) : Extractor :=
  { x with options := { x.options with cacheSize := 0 } }

namespace Session

variable {σ ν : Type} [Scope σ ν]

/-! ### Acts and events -/

/-- What a session is asked to do: a step, or to evaluate a rule in a scope of the caller. -/
inductive Act (σ : Type) where
  /-- A step of the session. -/
  | step (d : Step)
  /-- A rule is evaluated in a scope of the caller. -/
  | evaluate (scope : σ) (rule : Value) (filters : Overlay)

/-- What an act answers, and the session after it. -/
def perform (s : Session) : Act σ → Answer × Session
  | .step d => s.step d
  | .evaluate scope rule filters => s.answerOwn (s.extractor.evaluate rule scope filters)

/-- What an act answers, and the warnings that it leaves. -/
def outcome (s : Session) (a : Act σ) : Answer × List Notice :=
  ((s.perform a).1, Notice.warnings ((s.perform a).2.notices.drop s.notices.length))

/-- What happens while a session lasts. -/
inductive Event (σ : Type) where
  /-- The session performs an act. -/
  | act (a : Act σ)
  /-- Others use the store of the extractor and the shared store. -/
  | others (own shared : List Query.Use)

/-- A session after an event. -/
def happen (s : Session) : Event σ → Session
  | .act a => (s.perform a).2
  | .others own shared =>
    { s with
      own := own.foldl Query.Cache.use s.own
      shared := shared.foldl Query.Cache.use s.shared }

/-- A session after several events. -/
def after (s : Session) (past : List (Event σ)) : Session :=
  past.foldl happen s

/-- A session in which nothing has been done, which keeps no descriptors and has documents at
hand. -/
def alone (x : Extractor) (kept : List (String × Markup.Place)) : Session :=
  { start x.withoutStore none with kept }

/-! ### Faithful sessions -/

/-- Both stores of a session are faithful. -/
structure Faithful (s : Session) : Prop where
  own : s.own.Faithful
  shared : s.shared.Faithful

theorem faithful_start (x : Extractor) (capacity : Option Int) : (start x capacity).Faithful :=
  ⟨Query.Cache.faithful_empty _, Query.Cache.faithful_empty _⟩

theorem faithful_alone (x : Extractor) (kept : List (String × Markup.Place)) :
    (alone x kept).Faithful :=
  ⟨Query.Cache.faithful_empty _, Query.Cache.faithful_empty _⟩

theorem Faithful.withOwn {α : Type} {s : Session} (hs : s.Faithful) {e : Evaluation α}
    (he : e.Settled) : (s.withOwn e).2.Faithful := by
  obtain ⟨r, ws, he⟩ := he
  exact ⟨he.faithful (t := ⟨s.own, s.notices⟩) hs.own, hs.shared⟩

/-- What an act on the side is as a computation. -/
def aside (s : Session) (filters : Overlay) (e : Extractor → Evaluation Value) :
    Evaluation Value := do
  let x := Extractor.usual filters s.extractor.call
  x.begin
  e x

theorem settled_aside (s : Session) (filters : Overlay) {e : Extractor → Evaluation Value}
    (he : ∀ x, (e x).Settled) : (s.aside filters e).Settled :=
  (Extractor.settled_begin _).bind fun _ => he _

theorem Faithful.answerAside {s : Session} (hs : s.Faithful) (filters : Overlay)
    {e : Extractor → Evaluation Value} (he : ∀ x, (e x).Settled) :
    (s.answerAside filters e).2.Faithful := by
  obtain ⟨r, ws, h⟩ := s.settled_aside filters he
  exact ⟨hs.own, h.faithful (t := ⟨s.shared, s.notices⟩) hs.shared⟩

/-- Every step keeps the stores faithful. -/
theorem Faithful.step {s : Session} (hs : s.Faithful) (d : Step) : (s.step d).2.Faithful := by
  cases d with
  | extract markup rule base filters => exact hs.withOwn (s.extractor.settled_extract ..)
  | extractPage name bytes rule base filters =>
    exact hs.withOwn (s.extractor.settled_extractPage ..)
  | keep name markup base =>
    have h := hs.withOwn (s.extractor.settled_load markup base)
    simp only [Session.step]
    split
    · exact ⟨h.own, h.shared⟩
    · exact h
  | evaluate name rule filters =>
    simp only [Session.step]
    split
    · exact hs.withOwn (s.extractor.settled_evaluate ..)
    · exact hs
  | aside markup rule base filters =>
    exact hs.answerAside filters fun x => x.settled_extract ..
  | pageAside name bytes rule filters =>
    exact hs.answerAside filters fun x => x.settled_extractPage ..
  | clear => exact ⟨.clear, hs.shared⟩
  | sharedSize => exact hs

theorem Faithful.happen {s : Session} (hs : s.Faithful) (e : Event σ) : (s.happen e).Faithful := by
  cases e with
  | act a =>
    cases a with
    | step d => exact hs.step d
    | evaluate scope rule filters => exact hs.withOwn (s.extractor.settled_evaluate ..)
  | others own shared => exact ⟨hs.own.foldl_use own, hs.shared.foldl_use shared⟩

/-- Whatever happens, the stores stay faithful. -/
theorem Faithful.after {s : Session} (hs : s.Faithful) (past : List (Event σ)) :
    (s.after past).Faithful := by
  induction past generalizing s with
  | nil => exact hs
  | cons e past ih => exact ih (hs.happen e)

/-- No event changes the extractor. -/
theorem extractor_happen (s : Session) (e : Event σ) : (s.happen e).extractor = s.extractor := by
  cases e with
  | act a =>
    cases a with
    | step d =>
      cases d with
      | keep name markup base =>
        simp only [happen, perform, step]
        split <;> rfl
      | evaluate name rule filters =>
        simp only [happen, perform, step]
        split <;> rfl
      | _ => rfl
    | evaluate scope rule filters => rfl
  | others own shared => rfl

theorem extractor_after (s : Session) (past : List (Event σ)) :
    (s.after past).extractor = s.extractor := by
  induction past generalizing s with
  | nil => rfl
  | cons e past ih => exact (ih _).trans (extractor_happen s e)

/-! ### Outcomes -/

/-- What the outcome of a computation is as the outcome of an act. -/
def answered (o : Except Failure Value × List Notice) : Answer × List Notice :=
  (.ofOutcome o.1, o.2)

theorem outcome_evaluate (s : Session) (scope : σ) (rule : Value) (filters : Overlay) :
    s.outcome (.evaluate scope rule filters) =
      answered ((s.extractor.evaluate rule scope filters).outcomeFrom ⟨s.own, s.notices⟩) :=
  rfl

/-- A rule in a scope of the caller has the outcome that it has by itself, with an empty store and
the filters of the extractor and of the call made into one layer. -/
theorem outcome_evaluate_eq {s : Session} (hs : s.Faithful) (scope : σ) (rule : Value)
    (filters : Overlay) :
    s.outcome (.evaluate scope rule filters) =
      answered ((Evaluator.evaluate
        ⟨.merged (s.extractor.filters.layered filters), s.extractor.call⟩ rule scope).outcomeFrom
          {}) := by
  rw [outcome_evaluate, Registry.merged_layered]
  exact congrArg answered ((s.extractor.settled_evaluate rule scope filters).outcomeFrom_eq hs.own
    (Query.Cache.faithful_empty _))

/-- What the outcome of loading a document is as the outcome of an act. -/
def answeredRoot (o : Except Failure Markup.Place × List Notice) : Answer × List Notice :=
  match o with
  | (.ok root, ws) => (.document root, ws)
  | (.error f, ws) => (.failed f, ws)

theorem outcome_keep (s : Session) (name : String) (markup : Value) (base : Option String) :
    s.outcome (.step (.keep name markup base) : Act σ) =
      answeredRoot ((s.extractor.load markup base).outcomeFrom ⟨s.own, s.notices⟩) := by
  simp only [outcome, perform, step, withOwn, outcomeFrom]
  rcases (s.extractor.load markup base).runFrom ⟨s.own, s.notices⟩ with ⟨f | root, t⟩
  · rfl
  · rfl

theorem outcome_evaluate_kept (s : Session) (name : String) (rule : Value) (filters : Overlay) :
    s.outcome (.step (.evaluate name rule filters) : Act σ) =
      match s.kept.lookup name with
      | some root => s.outcome (.evaluate root rule filters)
      | none => (.failed (.fault (.nothingKept name)), []) := by
  simp only [outcome, perform, step]
  cases s.kept.lookup name with
  | some root => rfl
  | none => simp [Notice.warnings]

/-- A step of a session with faithful stores has the outcome that it has alone; only the steps that
ask for the size of a store answer with it. -/
theorem outcome_step_eq {s : Session} (hs : s.Faithful) (d : Step) :
    s.outcome (.step d : Act σ) =
      match d with
      | .clear => (.count s.own.size, [])
      | .sharedSize => (.count s.shared.size, [])
      | d => (alone s.extractor s.kept).outcome (.step d : Act σ) := by
  have ha := faithful_alone s.extractor s.kept
  have hown {α : Type} {e : Evaluation α} (he : e.Settled) :
      e.outcomeFrom ⟨s.own, s.notices⟩ = e.outcomeFrom ⟨(alone s.extractor s.kept).own, []⟩ :=
    he.outcomeFrom_eq hs.own ha.own
  have hshared {α : Type} {e : Evaluation α} (he : e.Settled) :
      e.outcomeFrom ⟨s.shared, s.notices⟩ =
        e.outcomeFrom ⟨(alone s.extractor s.kept).shared, []⟩ :=
    he.outcomeFrom_eq hs.shared ha.shared
  cases d with
  | extract markup rule base filters =>
    exact congrArg answered (hown (s.extractor.settled_extract markup rule base filters))
  | extractPage name bytes rule base filters =>
    exact congrArg answered (hown (s.extractor.settled_extractPage name bytes rule base filters))
  | keep name markup base =>
    exact (outcome_keep s name markup base).trans
      ((congrArg answeredRoot (hown (s.extractor.settled_load markup base))).trans
        (outcome_keep _ name markup base).symm)
  | evaluate name rule filters =>
    refine (outcome_evaluate_kept s name rule filters).trans
      (Eq.trans ?_ (outcome_evaluate_kept _ name rule filters).symm)
    -- The documents at hand are the same, so both sessions evaluate in the same one or in none.
    change (match s.kept.lookup name with | some root => _ | none => _) =
      match s.kept.lookup name with | some root => _ | none => _
    cases s.kept.lookup name with
    | some root =>
      exact (outcome_evaluate_eq hs root rule filters).trans
        (outcome_evaluate_eq ha root rule filters).symm
    | none => rfl
  | aside markup rule base filters =>
    exact congrArg answered
      (hshared (s.settled_aside filters fun x => x.settled_extract markup rule base []))
  | pageAside name bytes rule filters =>
    exact congrArg answered
      (hshared (s.settled_aside filters fun x => x.settled_extractPage name bytes rule none []))
  | clear =>
    simp only [outcome, perform, step, List.drop_left]
    rfl
  | sharedSize =>
    simp only [outcome, perform, step, List.drop_length]
    rfl

/-- **Acts are independent of the past.** Take any extractor, with a store of any capacity, and
anything that may have happened since the session began: acts with any rules and filters, some of
which may have failed, and others who have read queries with the two stores or cleared them. Then a
step has the outcome, with all data of a failure and all warnings, that it has alone in a session
that keeps no descriptors and in which nothing has been done, with the same documents at hand; only
the steps that ask for the size of a store answer with it. A rule in a scope of the caller has the
outcome that it has alone, which is the one that it has by itself, with an empty store and the
filters of the extractor and of the call made into one layer. -/
theorem outcome_after (x : Extractor) (capacity : Option Int) (past : List (Event σ)) :
    let s := (start x capacity).after past
    (∀ d : Step, s.outcome (.step d : Act σ) =
      match d with
      | .clear => (.count s.own.size, [])
      | .sharedSize => (.count s.shared.size, [])
      | d => (alone x s.kept).outcome (.step d : Act σ)) ∧
    ∀ (scope : σ) (rule : Value) (filters : Overlay),
      s.outcome (.evaluate scope rule filters) =
        (alone x []).outcome (.evaluate scope rule filters) ∧
      s.outcome (.evaluate scope rule filters) =
        answered ((Evaluator.evaluate ⟨.merged (x.filters.layered filters), x.call⟩
          rule scope).outcomeFrom {}) := by
  intro s
  have hs : s.Faithful := (faithful_start x capacity).after past
  have hx : s.extractor = x := extractor_after _ past
  refine ⟨fun d => ?_, fun scope rule filters => ?_⟩
  · rw [outcome_step_eq hs d, hx]
  · have h := outcome_evaluate_eq hs scope rule filters
    have h' := outcome_evaluate_eq (faithful_alone x []) scope rule filters
    rw [hx] at h
    exact ⟨h.trans h'.symm, h⟩

/-- What a query without filters leaves in the store is what reading it leaves there, whether its
selector finds something or not. -/
theorem cache_evaluate_text (ev : Evaluator) {query : String} {t : Trace} {d : Query.Descriptor}
    (hread : ((Query.parse (.text query)).runFrom t).1 = .ok d) (hone : d.getAll = false)
    (hnone : d.filters = []) (s : σ) :
    ((ev.evaluate (.text query) s).runFrom t).2.cache =
      ((Query.parse (.text query)).runFrom t).2.cache := by
  simp only [Evaluator.evaluate, Evaluator.evaluateQuery, runFrom_bind]
  generalize (Query.parse (.text query)).runFrom t = read at hread ⊢
  obtain ⟨result, after⟩ := read
  obtain rfl : result = .ok d := hread
  simp only [Evaluator.select, hone, hnone]
  rcases (Scope.select s d.selector : Except Selector.Problem (List ν)) with problem | nodes
  · cases problem <;> rfl
  · rfl

/-- The step that clears the store shows what has been read before it: after one extraction it
answers one, and alone it answers nought. -/
theorem clear_shows_past :
    let x := Extractor.usual [] fun f _ => .error (.notCallable f.kind)
    let d : Step := .extract (.text "<p>x</p>") (.text "p") none []
    let s := (start x none).after [(.act (.step d) : Event Markup.Place)]
    let clear : Act Markup.Place := .step .clear
    s.outcome clear = (.count 1, []) ∧ s.outcome clear ≠ (alone x []).outcome clear := by
  intro x d s clear
  have hs : s.outcome clear = (.count s.own.size, []) :=
    outcome_step_eq ((faithful_start x none).after [.act (.step d)]) .clear
  have halone : (alone x []).outcome clear = (.count 0, []) :=
    outcome_step_eq (faithful_alone x []) .clear
  have hown (markup rule : Value) :
      ((start x none).after
          [(.act (.step (.extract markup rule none [])) : Event Markup.Place)]).own =
        ((x.extract markup rule none []).runFrom ⟨(start x none).own, []⟩).2.cache :=
    rfl
  have hsize : s.own.size = 1 := by
    obtain ⟨doc, hdoc⟩ := Result.exists_eq_ok_of_isSome_toOption
      (x := Engines.build .standard "<p>x</p>".toList) (by decide +kernel)
    have hparse : ((Query.parse (.text "p")).runFrom ⟨(start x none).own, []⟩).1 =
        .ok ⟨some "p", none, [], false⟩ := Result.toOption_eq_some_iff.1 (by decide +kernel)
    rw [hown, Extractor.extract, x.load_of_build rfl hdoc rfl, pure_bind, Extractor.evaluate,
      cache_evaluate_text _ hparse rfl rfl]
    decide +kernel
  rw [hs, halone, hsize]
  exact ⟨rfl, by simp⟩

end Session

end Extraction
