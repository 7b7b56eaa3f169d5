import Extraction.Proofs.Evaluation.Settled
import Extraction.Proofs.Value.Decidable
import Mathlib.Data.List.Perm.Basic

/-!
# Maps of rules

The entries of a map of rules are evaluated one after another, in the order of the map, and each of
them finds a store that the ones before it have filled. This does not show: every entry gives what
its rule gives by itself. So a map gives a value if all of its rules do, it fails as the first rule
that fails, and the order of its entries is only the order of the results.

## Main definitions

* `Rule.alone` : the outcome of a rule by itself, with an empty store.
* `Rule.fieldWarnings` : the warnings of the rules of several entries.

## Main results

* `Rule.yields_evaluateFields_ok_iff`, `Rule.yields_evaluateFields_error_iff` : maps that succeed,
  and maps that fail.
* `Rule.outcome_fields` : a map is evaluated entry by entry.
-/

namespace Extraction.Rule

open Evaluation

variable {σ ν : Type} [Scope σ ν] (ev : Evaluator) (s : σ)

/-- The outcome of a rule by itself, with an empty store. -/
def alone (rule : Value) : Except Failure Value × List Notice :=
  (ev.evaluate rule s).outcomeFrom {}

/-- The warnings of the rules of several entries, each by itself, in order. -/
def fieldWarnings (entries : Entries) : List Notice :=
  entries.flatMap fun e => (alone ev s e.2).2

/-- An entry of a map and an entry of its result: the key is the same, and the value is that of the
rule by itself. -/
def FieldResult (e r : Value × Value) : Prop :=
  r.1 = e.1 ∧ (alone ev s e.2).1 = .ok r.2

/-- The evaluation of one entry of a map. -/
def evaluateField (e : Value × Value) : Evaluation (Value × Value) := do
  let v ← ev.evaluate e.2 s
  return (e.1, v)

theorem evaluateFields_eq_mapM (entries : Entries) :
    ev.evaluateFields entries s = entries.mapM (evaluateField ev s) := by
  induction entries with
  | nil => rfl
  | cons e entries ih =>
    obtain ⟨key, rule⟩ := e
    rw [Evaluator.evaluateFields, ih, List.mapM_cons, evaluateField, bind_assoc]
    simp only [pure_bind]

theorem settled_evaluateField (e : Value × Value) : (evaluateField ev s e).Settled :=
  (ev.settled_evaluate e.2 s).bind fun _ => settled_pure _

/-- The outcome of one entry is that of its rule by itself, with the key. -/
theorem outcomeFrom_evaluateField (e : Value × Value) :
    (evaluateField ev s e).outcomeFrom {} =
      ((alone ev s e.2).1.map fun v => (e.1, v), (alone ev s e.2).2) :=
  outcomeFrom_map ..

theorem warnings_evaluateField (e : Value × Value) :
    ((evaluateField ev s e).outcomeFrom {}).2 = (alone ev s e.2).2 := by
  rw [outcomeFrom_evaluateField]

variable {ev s}

theorem evaluateField_ok_iff {e r : Value × Value} :
    ((evaluateField ev s e).outcomeFrom {}).1 = .ok r ↔ FieldResult ev s e r := by
  rw [outcomeFrom_evaluateField, FieldResult]
  cases (alone ev s e.2).1 with
  | error f => simp [Except.map]
  | ok v => simp [Except.map, Prod.ext_iff, eq_comm]

theorem evaluateField_error_iff {e : Value × Value} {f : Failure} :
    ((evaluateField ev s e).outcomeFrom {}).1 = .error f ↔ (alone ev s e.2).1 = .error f := by
  rw [outcomeFrom_evaluateField]
  cases (alone ev s e.2).1 with
  | error f' => simp [Except.map]
  | ok v => simp [Except.map]

theorem exists_evaluateField_ok_iff {e : Value × Value} :
    (∃ r, ((evaluateField ev s e).outcomeFrom {}).1 = .ok r) ↔
      ∃ v, (alone ev s e.2).1 = .ok v := by
  simp only [evaluateField_ok_iff]
  exact ⟨fun ⟨r, _, hr⟩ => ⟨r.2, hr⟩, fun ⟨v, hv⟩ => ⟨(e.1, v), rfl, hv⟩⟩

/-- The entries of a map succeed if every rule does by itself. -/
theorem yields_evaluateFields_ok_iff {entries results : Entries} {ws : List Notice} :
    (ev.evaluateFields entries s).Yields (.ok results) ws ↔
      List.Forall₂ (FieldResult ev s) entries results ∧ ws = fieldWarnings ev s entries := by
  rw [evaluateFields_eq_mapM, yields_mapM_ok_iff (settled_evaluateField ev s)]
  simp only [evaluateField_ok_iff, warnings_evaluateField, fieldWarnings]

/-- The entries of a map fail as the first rule that fails by itself. -/
theorem yields_evaluateFields_error_iff {entries : Entries} {f : Failure} {ws : List Notice} :
    (ev.evaluateFields entries s).Yields (.error f) ws ↔
      ∃ before e later, entries = before ++ e :: later ∧
        (∀ b ∈ before, ∃ v, (alone ev s b.2).1 = .ok v) ∧ (alone ev s e.2).1 = .error f ∧
        ws = fieldWarnings ev s before ++ (alone ev s e.2).2 := by
  rw [evaluateFields_eq_mapM, yields_mapM_error_iff (settled_evaluateField ev s)]
  simp only [exists_evaluateField_ok_iff, evaluateField_error_iff, warnings_evaluateField,
    fieldWarnings]

/-- Every entry has a result if every rule succeeds by itself. -/
theorem exists_fieldResults_iff {entries : Entries} :
    (∃ results, List.Forall₂ (FieldResult ev s) entries results) ↔
      ∀ e ∈ entries, ∃ v, (alone ev s e.2).1 = .ok v := by
  rw [exists_forall₂_iff]
  refine forall₂_congr fun e _ => ?_
  exact ⟨fun ⟨r, _, hr⟩ => ⟨r.2, hr⟩, fun ⟨v, hv⟩ => ⟨(e.1, v), rfl, hv⟩⟩

theorem keys_fieldResults {entries results : Entries}
    (h : List.Forall₂ (FieldResult ev s) entries results) :
    results.map Prod.fst = entries.map Prod.fst := by
  induction h with
  | nil => rfl
  | cons hr _ ih => rw [List.map_cons, List.map_cons, hr.1, ih]

/-- Under every key of a map there is the value of its rule by itself. -/
theorem get?_fieldResults {entries results : Entries}
    (h : List.Forall₂ (FieldResult ev s) entries results) {key rule : Value}
    (hrule : entries.get? key = some rule) :
    ∃ v, results.get? key = some v ∧ (alone ev s rule).1 = .ok v := by
  induction h with
  | nil => cases hrule
  | @cons e r entries results hr _ ih =>
    obtain ⟨hkey, hv⟩ := hr
    simp only [Entries.get?, List.find?_cons, hkey] at hrule ih ⊢
    cases hequal : e.1.equal key with
    | true =>
      rw [hequal] at hrule
      obtain rfl := Option.some.inj hrule
      exact ⟨r.2, rfl, hv⟩
    | false =>
      rw [hequal] at hrule
      exact ih hrule

/-- A map succeeds if its entries do. -/
theorem yields_evaluate_map_ok_iff {entries : Entries} {v : Value} {ws : List Notice} :
    (ev.evaluate (.map entries) s).Yields (.ok v) ws ↔
      ∃ results, v = .map results ∧ List.Forall₂ (FieldResult ev s) entries results ∧
        ws = fieldWarnings ev s entries := by
  rw [Evaluator.evaluate, yields_map_ok_iff (ev.settled_evaluateFields entries s)]
  simp only [yields_evaluateFields_ok_iff]
  constructor
  · rintro ⟨results, h, rfl⟩
    exact ⟨results, rfl, h⟩
  · rintro ⟨results, rfl, h⟩
    exact ⟨results, h, rfl⟩

/-- A map fails as its entries do. -/
theorem yields_evaluate_map_error_iff {entries : Entries} {f : Failure} {ws : List Notice} :
    (ev.evaluate (.map entries) s).Yields (.error f) ws ↔
      ∃ before e later, entries = before ++ e :: later ∧
        (∀ b ∈ before, ∃ v, (alone ev s b.2).1 = .ok v) ∧ (alone ev s e.2).1 = .error f ∧
        ws = fieldWarnings ev s before ++ (alone ev s e.2).2 := by
  rw [Evaluator.evaluate, yields_map_error_iff (ev.settled_evaluateFields entries s),
    yields_evaluateFields_error_iff]

/-- **A map is evaluated entry by entry.** Take any map of rules, in any scope and with any filters,
and a store that reading queries has filled in any way. The map gives a value exactly if every rule
gives one by itself, with an empty store; that value is a map with the same keys in the same order,
and under every key there is the value of its rule. If a rule fails, the map fails as the first one
that does. Entries in another order have the same results in that order. -/
theorem outcome_fields (ev : Evaluator) (s : σ) (entries : Entries) (capacity : Int)
    (uses : List Query.Use) (ns : List Notice) :
    let whole (entries : Entries) :=
      (ev.evaluate (.map entries) s).outcomeFrom ⟨.filled capacity uses, ns⟩
    ((∃ v, (whole entries).1 = .ok v) ↔ ∀ e ∈ entries, ∃ v, (alone ev s e.2).1 = .ok v) ∧
    (∀ v ws, whole entries = (.ok v, ws) ↔ ∃ results, v = .map results ∧
      List.Forall₂ (FieldResult ev s) entries results ∧ ws = fieldWarnings ev s entries) ∧
    (∀ (results : Entries) (key rule : Value), (whole entries).1 = .ok (.map results) →
      entries.get? key = some rule →
        ∃ v, results.get? key = some v ∧ (alone ev s rule).1 = .ok v) ∧
    (∀ f ws, whole entries = (.error f, ws) ↔ ∃ before e later, entries = before ++ e :: later ∧
      (∀ b ∈ before, ∃ v, (alone ev s b.2).1 = .ok v) ∧ (alone ev s e.2).1 = .error f ∧
      ws = fieldWarnings ev s before ++ (alone ev s e.2).2) ∧
    ∀ results entries', (whole entries).1 = .ok (.map results) → entries.Perm entries' →
      ∃ results', (whole entries').1 = .ok (.map results') ∧ results.Perm results' ∧
        results'.map Prod.fst = entries'.map Prod.fst := by
  intro whole
  have ht : (⟨.filled capacity uses, ns⟩ : Trace).cache.Faithful :=
    Query.Cache.faithful_filled capacity uses
  have hok (es : Entries) (v : Value) (ws : List Notice) : whole es = (.ok v, ws) ↔
      ∃ results, v = .map results ∧ List.Forall₂ (FieldResult ev s) es results ∧
        ws = fieldWarnings ev s es :=
    ((ev.settled_evaluate (.map es) s).yields_iff ht).symm.trans yields_evaluate_map_ok_iff
  have hresults (es results : Entries) : (whole es).1 = .ok (.map results) ↔
      List.Forall₂ (FieldResult ev s) es results := by
    constructor
    · intro h
      obtain ⟨results', hmap, h, -⟩ := (hok es _ _).1 (Prod.ext h rfl)
      obtain rfl := Value.map.inj hmap
      exact h
    · exact fun h => congrArg Prod.fst ((hok es _ _).2 ⟨results, rfl, h, rfl⟩)
  refine ⟨?_, hok entries, fun results key rule h hrule => ?_, fun f ws => ?_,
    fun results entries' h hperm => ?_⟩
  · rw [← exists_fieldResults_iff]
    constructor
    · rintro ⟨v, h⟩
      obtain ⟨results, -, h, -⟩ := (hok entries v _).1 (Prod.ext h rfl)
      exact ⟨results, h⟩
    · rintro ⟨results, h⟩
      exact ⟨.map results, (hresults entries results).2 h⟩
  · exact get?_fieldResults ((hresults entries results).1 h) hrule
  · exact ((ev.settled_evaluate (.map entries) s).yields_iff ht).symm.trans
      yields_evaluate_map_error_iff
  · -- Every entry has its own result, so the results can be put into the new order of the entries.
    obtain ⟨results', h', hperm'⟩ :=
      List.perm_comp_forall₂ hperm.symm ((hresults entries results).1 h)
    exact ⟨results', (hresults entries' results').2 h', hperm'.symm, keys_fieldResults h'⟩

/-- A map of two queries, the same with its entries exchanged, and one whose second and third rules
both fail. -/
theorem outcome_fields_exchanged :
    let ev : Evaluator := ⟨.builtin, fun f _ => .error (.notCallable f.kind)⟩
    let page : TableScope := .node [] [("h1", [.node [("text", .text " T ")] []])]
    let whole (entries : Entries) :=
      (ev.evaluate (.map entries) page).outcomeFrom ⟨.filled 1 [.read (.text "h2")], []⟩
    let title : Value × Value := (.text "title", .text "h1 | trim")
    let items : Value × Value := (.text "items", .text "[li]")
    let results : Entries := [(.text "title", .text "T"), (.text "items", .list [])]
    (whole [title, items]).1 = .ok (.map results) ∧
      (∃ results' : Entries, (whole [items, title]).1 = .ok (.map results') ∧
        results.Perm results' ∧ results'.map Prod.fst = [.text "items", .text "title"]) ∧
      ∃ f, (alone ev page .null).1 = .error f ∧
        (whole [title, (.text "x", .null), (.text "y", .list [])]).1 = .error f := by
  intro ev page whole title items results
  have hwhole : (whole [title, items]).1 = .ok (.map results) := by decide +kernel
  have htitle : (alone ev page (.text "h1 | trim")).1 = .ok (.text "T") := by decide +kernel
  obtain ⟨-, -, -, -, hperm⟩ := outcome_fields ev page [title, items] 1 [.read (.text "h2")] []
  obtain ⟨-, -, -, herror, -⟩ := outcome_fields ev page
    [title, (.text "x", .null), (.text "y", .list [])] 1 [.read (.text "h2")] []
  refine ⟨hwhole, hperm results [items, title] hwhole (.swap items title []), _, rfl, ?_⟩
  refine congrArg Prod.fst ((herror _ _).2 ⟨[title], (.text "x", .null), [(.text "y", .list [])],
    rfl, fun b hb => ?_, rfl, rfl⟩)
  rw [List.mem_singleton.1 hb]
  exact ⟨_, htitle⟩

end Extraction.Rule
