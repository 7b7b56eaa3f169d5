import Extraction.Proofs.Evaluation.Success
import Extraction.Proofs.Value.Decidable

/-!
# Results have the form of their rules

A rule says what its result looks like: a query for every match gives a list with one item per
match, a map gives a map with the same keys in the same order, and a divided list gives what its
rest gives, for every match or for the first one. This form is defined by recursion on the rule,
with the scope that each part of it is evaluated in, and does not mention filters: they may change
the items of a list but not their number.

## Main definitions

* `Rule.Conforms` : a value has the form of a rule in a scope.
* `Rule.ItemsConform`, `Rule.FieldsConform` : the same for the items of a list that is a rule, and
  for the entries of a map.

## Main results

* `Rule.conforms_of_evaluate` : whatever an evaluation gives has the form of the rule.
-/

namespace Extraction.Rule

open Evaluation

variable {σ ν : Type} [Scope σ ν]

mutual

/-- A value has the form of a rule in a scope. A function may give anything, and what is no rule
has no form. -/
def Conforms : Value → σ → Value → Prop
  | .text query, s, v =>
    ∃ d nodes, Query.meaning (.text query) = .ok d ∧ Scope.select s d.selector = .ok nodes ∧
      (d.getAll = true → ∃ vs, v = .list vs ∧ vs.length = nodes.length)
  | .map entries, s, v => ∃ results, v = .map results ∧ FieldsConform entries s results
  | .list items, s, v => ItemsConform items s v
  | .tuple items, s, v => ItemsConform items s v
  | .function _ _, _, _ => True
  | _, _, _ => False

/-- A value has the form of a list of items that is a rule: that of the only item, or, if the second
item is no function, that of the rest for the nodes that the first item selects. Functions after
the first item may give anything. -/
def ItemsConform : List Value → σ → Value → Prop
  | [], _, _ => False
  | [only], s, v => Conforms only s v
  | lead :: second :: rest, s, v =>
    if second.isFunction then True
    else
      ∃ query d nodes, lead = .text query ∧ Query.meaning (.text query) = .ok d ∧
        Scope.select s d.selector = .ok nodes ∧
        if d.getAll then
          ∃ vs, v = .list vs ∧
            List.Forall₂ (fun n w => ItemsConform (second :: rest) (Scope.enter n : σ) w) nodes vs
        else
          match nodes with
          | [] => v = .null
          | n :: _ => ItemsConform (second :: rest) (Scope.enter n : σ) v

/-- Entries have the form of the entries of a map of rules: they have the same keys in the same
order, and every value has the form of its rule. -/
def FieldsConform : Entries → σ → Entries → Prop
  | [], _, results => results = []
  | (key, rule) :: rest, s, results =>
    ∃ v more, results = (key, v) :: more ∧ Conforms rule s v ∧ FieldsConform rest s more

end

/-- The keys of the results of a map are those of the map, in the same order. -/
theorem FieldsConform.keys {entries : Entries} {s : σ} {results : Entries}
    (h : FieldsConform entries s results) : results.map Prod.fst = entries.map Prod.fst := by
  induction entries generalizing results with
  | nil => rw [h]
  | cons entry entries ih =>
    obtain ⟨v, more, rfl, -, h⟩ := h
    rw [List.map_cons, List.map_cons, ih h]

/-- A list is divided if its first item is a query and its second one is no function. -/
theorem arrangement_eq_divided_iff {lead : Value} {rest : List Value} {query : String} :
    arrangement lead rest = .ok (.divided query) ↔
      lead = .text query ∧ ∃ second more, rest = second :: more ∧ second.isFunction = false := by
  cases rest with
  | nil => simp [arrangement]
  | cons second more =>
    cases h : second.isFunction with
    | true =>
      refine iff_of_false (fun harr => ?_) (by simp [h])
      simp only [arrangement, h, if_true] at harr
      cases hnon : firstNonFunction? 1 (second :: more) with
      | none => simp [hnon] at harr
      | some found => simp [hnon] at harr
    | false =>
      simp only [arrangement, h]
      cases lead <;> simp [h]

/-- The second item of a pipeline, if there is one, is a function. -/
theorem isFunction_of_arrangement {lead second : Value} {more : List Value}
    (h : arrangement lead (second :: more) = .ok .pipeline) : second.isFunction = true := by
  cases hs : second.isFunction with
  | true => rfl
  | false =>
    simp only [arrangement, hs] at h
    cases lead <;> simp at h

variable {ev : Evaluator}

/-- What a query gives has the form of the query. -/
theorem conforms_of_evaluateQuery {query : String} {s : σ} {v : Value} {ws : List Notice}
    (h : (ev.evaluateQuery query s).Yields (.ok v) ws) : Conforms (.text query) s v := by
  obtain ⟨d, nodes, hd, hnodes, h⟩ := Evaluator.yields_evaluateQuery_ok_iff.1 h
  refine ⟨d, nodes, hd, hnodes, fun hall => ?_⟩
  obtain ⟨steps, results, -, hresults, rfl⟩ := (Evaluator.yields_answer_all_ok_iff hall).1 h
  refine ⟨results, rfl, ?_⟩
  rw [Evaluator.length_of_yields_runChainEach hresults, Scope.extractAll, List.length_map]

/-- What the rest of a divided list gives for the selected nodes has the form of the list, if what
it gives for each node has the form of the rest. -/
theorem itemsConform_of_divide {query : String} {second : Value} {more : List Value}
    (hsecond : second.isFunction = false) {d : Query.Descriptor} {s : σ} {nodes : List ν}
    (hd : Query.meaning (.text query) = .ok d) (hnodes : Scope.select s d.selector = .ok nodes)
    (ih : ∀ (n : ν) (v : Value) (ws : List Notice),
      (ev.evaluateItems (.list (second :: more)) (second :: more) (Scope.enter n : σ)).Yields
        (.ok v) ws → ItemsConform (second :: more) (Scope.enter n : σ) v)
    {v : Value} {ws : List Notice}
    (h : (ev.divide σ d.getAll (second :: more) nodes).Yields (.ok v) ws) :
    ItemsConform (.text query :: second :: more) s v := by
  rw [ItemsConform, if_neg (by simp [hsecond])]
  refine ⟨query, d, nodes, rfl, hd, hnodes, ?_⟩
  cases hall : d.getAll with
  | true =>
    rw [hall, Evaluator.divide_all] at h
    have hsettled (n : ν) : (ev.evaluateItems (.list (second :: more)) (second :: more)
        (Scope.enter n : σ)).Settled := ev.settled_evaluateItems ..
    obtain ⟨vs, hvs, rfl⟩ := (yields_map_ok_iff (Settled.mapM hsettled nodes)).1 h
    exact ⟨vs, rfl, (hvs.forall₂_of_mapM hsettled).imp fun n w ⟨us, hw⟩ => ih n w us hw⟩
  | false =>
    rw [hall] at h
    cases nodes with
    | nil => exact (yields_pure_ok_iff.1 h).1
    | cons n nodes => exact ih n v ws h

private theorem conforms_all :
    (∀ (rule : Value) (s : σ) (v : Value) (ws : List Notice),
      (ev.evaluate rule s).Yields (.ok v) ws → Conforms rule s v) ∧
    (∀ (whole : Value) (items : List Value) (s : σ) (v : Value) (ws : List Notice),
      (ev.evaluateItems whole items s).Yields (.ok v) ws → ItemsConform items s v) ∧
    ∀ (entries : Entries) (s : σ) (results : Entries) (ws : List Notice),
      (ev.evaluateFields entries s).Yields (.ok results) ws → FieldsConform entries s results := by
  refine Evaluator.evaluate.mutual_induct (σ := σ) _ _ _ ?text ?map ?list ?tuple ?function ?null
    ?other ?empty ?misarranged ?pipeline ?divided ?noField ?field
  case text => exact fun query s v ws h => conforms_of_evaluateQuery h
  case map =>
    intro entries s ih v ws h
    obtain ⟨results, hresults, rfl⟩ :=
      (yields_map_ok_iff (ev.settled_evaluateFields entries s)).1 h
    exact ⟨results, rfl, ih results ws hresults⟩
  case list => exact fun items s ih => ih
  case tuple => exact fun items s ih => ih
  case function => exact fun name captured s v ws h => trivial
  case null => exact fun s v ws h => absurd h not_yields_throw_ok
  case other =>
    intro other s htext hmap hlist htuple hfunction hnull v ws h
    rw [Evaluator.evaluate] at h
    · exact absurd h not_yields_throw_ok
    all_goals assumption
  case empty => exact fun whole s v ws h => absurd h not_yields_throw_ok
  case misarranged =>
    intro whole lead rest s problem harr v ws h
    rw [Evaluator.evaluateItems, harr] at h
    exact absurd h not_yields_throw_ok
  case pipeline =>
    intro whole lead rest s harr ih v ws h
    cases rest with
    | nil =>
      rw [Evaluator.evaluateItems, harr] at h
      obtain ⟨w, hw, hv⟩ := (yields_map_ok_iff (g := id) (ev.settled_evaluate lead s)).1 h
      rw [hv]
      exact ih w ws hw
    | cons second more =>
      rw [ItemsConform, if_pos (isFunction_of_arrangement harr)]
      trivial
  case divided =>
    intro whole lead rest s query harr ih v ws h
    obtain ⟨rfl, second, more, rfl, hsecond⟩ := arrangement_eq_divided_iff.1 harr
    obtain ⟨d, nodes, hd, hnodes, h⟩ := (Evaluator.yields_evaluateItems_divided_ok_iff harr).1 h
    exact itemsConform_of_divide hsecond hd hnodes ih h
  case noField => exact fun s results ws h => (yields_pure_ok_iff.1 h).1
  case field =>
    intro key rule rest s ih ihs results ws h
    rw [Evaluator.evaluateFields, yields_bind_ok_iff (ev.settled_evaluate rule s)
      fun _ => (ev.settled_evaluateFields rest s).bind fun _ => settled_pure _] at h
    obtain ⟨v, us, vs, hv, h, -⟩ := h
    obtain ⟨more, hmore, rfl⟩ := (yields_map_ok_iff (ev.settled_evaluateFields rest s)).1 h
    exact ⟨v, more, rfl, ih v us hv, ihs more vs hmore⟩

/-- **Results have the form of their rules.** Take any rule, in any scope and with any filters, and
a store that reading queries has filled in any way. If the evaluation succeeds, its result has the
form of the rule. -/
theorem conforms_of_evaluate (ev : Evaluator) (rule : Value) (s : σ) (capacity : Int)
    (uses : List Query.Use) (ns : List Notice) {v : Value}
    (h : ((ev.evaluate rule s).outcomeFrom ⟨.filled capacity uses, ns⟩).1 = .ok v) :
    Conforms rule s v := by
  have hy := (ev.settled_evaluate rule s).yields
    (t := ⟨.filled capacity uses, ns⟩) (Query.Cache.faithful_filled capacity uses)
  rw [h] at hy
  exact conforms_all.1 rule s v _ hy

/-- A map with a query that finds nothing and a list that is divided for every match, whose rest is
a map again, with a query for every match that has a filter. -/
theorem conforms_catalog :
    let ev : Evaluator := ⟨.builtin, fun f _ => .error (.notCallable f.kind)⟩
    let t : Trace := ⟨.filled 1 [.read (.text "b"), .clear, .read (.text "h1")], []⟩
    let row (name : List TableScope) (text : String) : TableScope :=
      .node [("text", .text text)] [("b", name)]
    let page : TableScope :=
      .node [] [("li", [row [.node [("text", .text "x")] []] " a ", row [] " c "])]
    let rule : Value := .map [(.text "title", .text "h1"), (.text "items", .list [.text "[li]",
      .map [(.text "name", .text "b"), (.text "all", .text "[@text | trim]")]])]
    let result : Value := .map [(.text "title", .null), (.text "items", .list [
      .map [(.text "name", .text "x"), (.text "all", .list [.text "a"])],
      .map [(.text "name", .null), (.text "all", .list [.text "c"])]])]
    ((ev.evaluate rule page).outcomeFrom t).1 = .ok result ∧ Conforms rule page result := by
  intro ev t row page rule result
  have h : ((ev.evaluate rule page).outcomeFrom t).1 = .ok result := by decide +kernel
  exact ⟨h, conforms_of_evaluate ev rule page 1 [.read (.text "b"), .clear, .read (.text "h1")] []
    h⟩

end Extraction.Rule
