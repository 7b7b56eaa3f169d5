import Extraction.Proofs.Rule.Conformance
import Extraction.Proofs.Rule.Fields
import Extraction.Rule.Procedures

/-!
# Lists with several dividers

A divided list whose rest is divided again goes from scope to scope: every query at its front
selects nodes in the scopes that the one before it has led to, and what stands behind the last of
them is evaluated in the innermost scopes only. The list is flat, and which of its items is what is
decided anew at every level; here the levels are a recursion on the queries alone.

## Main definitions

* `Rule.nest` : a computation behind several queries, one level for each.
* `Rule.innermost` : the scopes that several queries lead to.
* `Rule.Nested` : the values that are made of values in the innermost scopes.

## Main results

* `Rule.evaluate_queries` : a list with queries at its front is such a recursion.
* `Rule.yields_nest_ok_iff` : what succeeds behind several queries.
* `Rule.outcomeFrom_nest_congr` : what stands behind the queries matters only in the innermost
  scopes.
* `Rule.outcome_chain` : what a list with several dividers gives.
-/

namespace Extraction

open Evaluation

namespace Rule

open Evaluator

variable {σ ν : Type} [Scope σ ν]

/-! ### Levels -/

/-- A computation behind queries, each of which selects in the scopes of the one before it. -/
def nest (level : σ → Evaluation Value) : List String → σ → Evaluation Value
  | [], s => level s
  | query :: queries, s => do
    let d ← Query.parse (.text query)
    let nodes ← select s d.selector
    deal (nest level queries) d.getAll nodes

/-- The scopes that a level goes on with. -/
def chosen (getAll : Bool) (nodes : List ν) : List σ :=
  (if getAll then nodes else nodes.take 1).map Scope.enter

/-- The scopes that a query leads to; if it fails, there are none. -/
def reached (query : String) (s : σ) : List σ :=
  match Query.meaning (.text query) with
  | .error _ => []
  | .ok d =>
    match Scope.select s d.selector with
    | .error _ => []
    | .ok nodes => chosen d.getAll nodes

/-- The scopes that several queries lead to, each from those of the one before it. -/
def innermost : List String → σ → List σ
  | [], s => [s]
  | query :: queries, s => (reached query s).flatMap (innermost queries)

/-- A value is made of values in the scopes that a level goes on with: it is the list of them, or
the only one, or the empty value. -/
def Dealt (Inner : σ → Value → Prop) (getAll : Bool) (nodes : List ν) (v : Value) : Prop :=
  if getAll then
    ∃ vs, v = .list vs ∧ List.Forall₂ (fun n w => Inner (Scope.enter n) w) nodes vs
  else
    match nodes with
    | [] => v = .null
    | n :: _ => Inner (Scope.enter n) v

/-- A value is made of values in the innermost scopes, level by level. -/
def Nested (Inner : σ → Value → Prop) : List String → σ → Value → Prop
  | [], s, v => Inner s v
  | query :: queries, s, v =>
    ∃ d nodes, Query.meaning (.text query) = .ok d ∧ Scope.select s d.selector = .ok nodes ∧
      Dealt (Nested Inner queries) d.getAll nodes v

theorem reached_of_select {query : String} {s : σ} {d : Query.Descriptor} {nodes : List ν}
    (hd : Query.meaning (.text query) = .ok d) (hnodes : Scope.select s d.selector = .ok nodes) :
    reached query s = chosen d.getAll nodes := by
  simp only [reached, hd, hnodes]

theorem settled_nest {level : σ → Evaluation Value} (h : ∀ a, (level a).Settled)
    (queries : List String) (s : σ) : (nest level queries s).Settled := by
  induction queries generalizing s with
  | nil => exact h s
  | cons query queries ih =>
    exact (Query.settled_parse _).bind fun d => (settled_select s _).bind fun nodes =>
      settled_deal ih d.getAll nodes

/-! ### Successful levels -/

/-- A value is the result of a computation by itself. -/
def Gives (level : σ → Evaluation Value) (s : σ) (v : Value) : Prop :=
  ((level s).outcomeFrom {}).1 = .ok v

/-- The warnings of a computation in several scopes, by itself in each. -/
def warnings (level : σ → Evaluation Value) (scopes : List σ) : List Notice :=
  scopes.flatMap fun a => ((level a).outcomeFrom {}).2

theorem yields_level_iff {level : σ → Evaluation Value} {s : σ} (h : (level s).Settled) {v : Value}
    {ws : List Notice} :
    (level s).Yields (.ok v) ws ↔ Gives level s v ∧ ws = warnings level [s] := by
  rw [h.yields_iff Trace.faithful_empty, Prod.ext_iff, Gives, warnings, List.flatMap_singleton]
  exact and_congr_right' eq_comm

theorem gives_iff {level : σ → Evaluation Value} {s : σ} (h : (level s).Settled) {v : Value} :
    Gives level s v ↔ ∃ ws, (level s).Yields (.ok v) ws := by
  simp [yields_level_iff h]

/-- If a level makes a value, there is a value in every scope that it goes on with. -/
theorem Dealt.exists_inner {Inner : σ → Value → Prop} {getAll : Bool} {nodes : List ν} {v : Value}
    (h : Dealt Inner getAll nodes v) : ∀ a ∈ chosen getAll nodes, ∃ w, Inner a w := by
  intro a ha
  obtain ⟨n, hn, rfl⟩ := List.mem_map.1 ha
  cases getAll with
  | true =>
    obtain ⟨vs, -, hvs⟩ := h
    obtain ⟨i, hi, rfl⟩ := List.getElem_of_mem hn
    exact ⟨_, hvs.get hi (hvs.length_eq ▸ hi)⟩
  | false =>
    cases nodes with
    | nil => cases hn
    | cons m nodes =>
      obtain rfl := List.mem_singleton.1 hn
      exact ⟨v, h⟩

/-- A level succeeds if what is behind it succeeds in every scope that it goes on with. -/
theorem yields_deal_ok_iff {level : σ → Evaluation Value} (h : ∀ a, (level a).Settled)
    {getAll : Bool} {nodes : List ν} {v : Value} {ws : List Notice} :
    (deal level getAll nodes).Yields (.ok v) ws ↔
      Dealt (Gives level) getAll nodes v ∧ ws = warnings level (chosen getAll nodes) := by
  cases getAll with
  | true =>
    have hnodes (n : ν) : (level (Scope.enter n)).Settled := h _
    simp only [deal, Dealt, chosen, warnings, if_true, List.flatMap_map]
    rw [yields_map_ok_iff (Settled.mapM hnodes nodes)]
    simp only [yields_mapM_ok_iff hnodes]
    constructor
    · rintro ⟨vs, ⟨hvs, rfl⟩, rfl⟩
      exact ⟨⟨vs, rfl, hvs⟩, rfl⟩
    · rintro ⟨⟨vs, rfl, hvs⟩, rfl⟩
      exact ⟨vs, ⟨hvs, rfl⟩, rfl⟩
  | false =>
    cases nodes with
    | nil => exact yields_pure_ok_iff
    | cons n nodes => exact yields_level_iff (h _)

/-- A computation behind several queries succeeds if they are accepted on the way and it succeeds in
every innermost scope; it leaves its warnings there once, and the queries leave none. -/
theorem yields_nest_ok_iff {level : σ → Evaluation Value} (h : ∀ a, (level a).Settled)
    {queries : List String} {s : σ} {v : Value} {ws : List Notice} :
    (nest level queries s).Yields (.ok v) ws ↔
      Nested (Gives level) queries s v ∧ ws = warnings level (innermost queries s) := by
  induction queries generalizing s v ws with
  | nil => exact yields_level_iff (h s)
  | cons query queries ih =>
    have hsettled := settled_nest h queries
    have hgives : Gives (nest level queries) = Nested (Gives level) queries := by
      funext a w
      simp [gives_iff (hsettled a), ih]
    -- A level that succeeds has gone on in all of its scopes, so none of their warnings is missing.
    have hwarnings {scopes : List σ} (hin : ∀ a ∈ scopes, ∃ w, Nested (Gives level) queries a w) :
        warnings (nest level queries) scopes =
          warnings level (scopes.flatMap (innermost queries)) := by
      rw [warnings, warnings, List.flatMap_assoc]
      refine List.flatMap_congr fun a ha => ?_
      obtain ⟨w, hw⟩ := hin a ha
      exact congrArg Prod.snd ((ih.2 ⟨hw, rfl⟩).outcomeFrom Trace.faithful_empty)
    rw [nest, yields_selected_ok_iff fun d => settled_deal hsettled d.getAll]
    simp only [yields_deal_ok_iff hsettled, hgives, innermost]
    constructor
    · rintro ⟨d, nodes, hd, hnodes, hv, rfl⟩
      rw [hwarnings hv.exists_inner, reached_of_select hd hnodes]
      exact ⟨⟨d, nodes, hd, hnodes, hv⟩, rfl⟩
    · rintro ⟨⟨d, nodes, hd, hnodes, hv⟩, rfl⟩
      rw [reached_of_select hd hnodes, ← hwarnings hv.exists_inner]
      exact ⟨d, nodes, hd, hnodes, hv, rfl⟩

/-! ### What stands behind the queries -/

/-- A level depends on what is behind it only in the scopes that it goes on with. -/
theorem outcomeFrom_deal_congr {level level' : σ → Evaluation Value} (h : ∀ a, (level a).Settled)
    (h' : ∀ a, (level' a).Settled) {getAll : Bool} {nodes : List ν} {t : Trace}
    (ht : t.cache.Faithful)
    (heq : ∀ a ∈ chosen getAll nodes, (level a).outcomeFrom t = (level' a).outcomeFrom t) :
    (deal level getAll nodes).outcomeFrom t = (deal level' getAll nodes).outcomeFrom t := by
  cases getAll with
  | true =>
    have hnodes (n : ν) (hn : n ∈ nodes) :
        (level (Scope.enter n)).outcomeFrom t = (level' (Scope.enter n)).outcomeFrom t :=
      heq _ (List.mem_map_of_mem hn)
    simp only [deal, if_true, outcomeFrom_map,
      outcomeFrom_mapM_congr (fun n => h (Scope.enter n)) (fun n => h' (Scope.enter n)) ht hnodes]
  | false =>
    cases nodes with
    | nil => rfl
    | cons n nodes => exact heq _ (List.mem_singleton_self _)

/-- What stands behind several queries matters only in the innermost scopes. -/
theorem outcomeFrom_nest_congr {level level' : σ → Evaluation Value} (h : ∀ a, (level a).Settled)
    (h' : ∀ a, (level' a).Settled) {queries : List String} {s : σ} {t : Trace}
    (ht : t.cache.Faithful)
    (heq : ∀ a ∈ innermost queries s, (level a).outcomeFrom t = (level' a).outcomeFrom t) :
    (nest level queries s).outcomeFrom t = (nest level' queries s).outcomeFrom t := by
  induction queries generalizing s with
  | nil => exact heq s (List.mem_singleton_self s)
  | cons query queries ih =>
    have hnest := settled_nest h queries
    have hnest' := settled_nest h' queries
    have hselect (d : Query.Descriptor) := settled_select s d.selector
    -- The query is read and selects alike before both levels, and where it fails neither is begun.
    refine (Query.settled_parse _).outcomeFrom_bind_congr
      (fun d => (hselect d).bind (settled_deal hnest d.getAll))
      (fun d => (hselect d).bind (settled_deal hnest' d.getAll)) ht fun d hd => ?_
    refine (hselect d).outcomeFrom_bind_congr (settled_deal hnest d.getAll)
      (settled_deal hnest' d.getAll) ht fun nodes hnodes => ?_
    refine outcomeFrom_deal_congr hnest hnest' ht fun a ha => ih fun b hb => heq b ?_
    rw [(Query.yields_parse _).outcomeFrom ht] at hd
    obtain ⟨hnodes, -⟩ := yields_select_ok_iff.1
      (((hselect d).yields_iff ht).2 (Prod.ext hnodes rfl))
    rw [innermost, reached_of_select hd hnodes]
    exact List.mem_flatMap.2 ⟨a, ha, hb⟩

/-! ### Lists -/

/-- What several functions give for a value, each for what the one before it gives. -/
def compose (ev : Evaluator) (fs : List Value) (v : Value) : Except Fault Value :=
  fs.foldlM (fun w f => ev.call f [w]) v

theorem firstNonFunction?_eq_none {fs : List Value} (h : ∀ f ∈ fs, f.isFunction = true) (n : Nat) :
    firstNonFunction? n fs = none := by
  induction fs generalizing n with
  | nil => rfl
  | cons f fs ih =>
    obtain ⟨hf, hfs⟩ := List.forall_mem_cons.1 h
    rw [firstNonFunction?, if_pos hf, ih hfs]

/-- Functions behind a first item make a pipeline. -/
theorem arrangement_of_functions (lead : Value) {fs : List Value}
    (h : ∀ f ∈ fs, f.isFunction = true) : arrangement lead fs = .ok .pipeline := by
  cases fs with
  | nil => rfl
  | cons f fs =>
    simp only [arrangement, h f List.mem_cons_self, if_true, firstNonFunction?_eq_none h]

variable (ev : Evaluator)

/-- A pipeline is its first item and then its functions. -/
theorem evaluate_pipeline (sub : Value) {fs : List Value} (h : ∀ f ∈ fs, f.isFunction = true)
    (s : σ) : ev.evaluate (.list (sub :: fs)) s = (do
      let v ← ev.evaluate sub s
      ev.runFunctions fs v) := by
  rw [Evaluator.evaluate, Evaluator.evaluateItems, arrangement_of_functions sub h]

/-- A list whose first item is a query and whose second item is no function is one level. -/
theorem evaluateItems_query {second : Value} (h : second.isFunction = false) (more : List Value)
    (query : String) (whole : Value) (s : σ) :
    ev.evaluateItems whole (.text query :: second :: more) s = (do
      let d ← Query.parse (.text query)
      let nodes ← select s d.selector
      deal (fun a : σ => ev.evaluate (.list (second :: more)) a) d.getAll nodes) :=
  ev.evaluateItems_divided (arrangement_eq_divided_iff.2 ⟨rfl, second, more, rfl, h⟩) whole s

/-- The items of a list with queries at its front are one level for each query, if the item behind
them is no function. -/
theorem evaluateItems_queries {sub : Value} (hsub : sub.isFunction = false) (rest : List Value)
    (first : String) (more : List String) (whole : Value) (s : σ) :
    ev.evaluateItems whole ((first :: more).map .text ++ sub :: rest) s =
      nest (fun a => ev.evaluate (.list (sub :: rest)) a) (first :: more) s := by
  -- The rest is a list of its own: its second item is the next query or the rule, so no function.
  induction more generalizing first whole s with
  | nil => exact evaluateItems_query ev hsub rest first whole s
  | cons second more ih =>
    have hlevel (a : σ) :
        ev.evaluate (.list (.text second :: (more.map .text ++ sub :: rest))) a =
          nest (fun a => ev.evaluate (.list (sub :: rest)) a) (second :: more) a := by
      rw [Evaluator.evaluate]
      exact ih second _ a
    rw [nest, ← funext hlevel]
    exact evaluateItems_query ev rfl _ first whole s

/-- A list or tuple with queries at its front is one level for each query, if the item behind them
is no function. -/
theorem evaluate_queries {sub : Value} (hsub : sub.isFunction = false) (rest : List Value)
    (first : String) (more : List String) {form : List Value → Value}
    (hform : form = .list ∨ form = .tuple) (s : σ) :
    ev.evaluate (form ((first :: more).map .text ++ sub :: rest)) s =
      nest (fun a => ev.evaluate (.list (sub :: rest)) a) (first :: more) s := by
  rcases hform with rfl | rfl
  · rw [Evaluator.evaluate]
    exact evaluateItems_queries ev hsub rest first more _ s
  · rw [Evaluator.evaluate]
    exact evaluateItems_queries ev hsub rest first more _ s

/-- Functions run one after another fail as the first one that does. -/
theorem runFunctions_eq (fs : List Value) (v : Value) :
    ev.runFunctions fs v =
      match compose ev fs v with
      | .ok w => pure w
      | .error fault => throw (.fault fault) := by
  induction fs generalizing v with
  | nil => rfl
  | cons f fs ih =>
    rw [Evaluator.runFunctions, Evaluator.invoke, compose, List.foldlM_cons]
    cases ev.call f [v] with
    | error fault => rfl
    | ok w => exact ih w

/-- A rule and the functions behind it give what the functions make of the value of the rule. -/
def Piped (ev : Evaluator) (sub : Value) (fs : List Value) (s : σ) (v : Value) : Prop :=
  ∃ u, (alone ev s sub).1 = .ok u ∧ compose ev fs u = .ok v

/-- The outcome of a pipeline is that of its rule, with the functions applied to the value. They
leave no warnings of their own. -/
theorem alone_pipeline (sub : Value) {fs : List Value} (h : ∀ f ∈ fs, f.isFunction = true) (s : σ) :
    alone ev s (.list (sub :: fs)) =
      ((alone ev s sub).1.bind fun u => (compose ev fs u).mapError .fault, (alone ev s sub).2) := by
  rw [alone, alone, evaluate_pipeline ev sub h,
    (ev.settled_evaluate sub s).outcomeFrom_bind (ev.settled_runFunctions fs) Trace.faithful_empty]
  rcases (ev.evaluate sub s).outcomeFrom {} with ⟨x | u, ws⟩
  · rfl
  · simp only [runFunctions_eq, Except.bind]
    cases compose ev fs u with
    | error fault => simp [(yields_throw _).outcomeFrom Trace.faithful_empty, Except.mapError]
    | ok w => simp [(yields_pure _).outcomeFrom Trace.faithful_empty, Except.mapError]

variable {ev} in
theorem gives_pipeline_iff {sub : Value} {fs : List Value} (h : ∀ f ∈ fs, f.isFunction = true)
    {s : σ} {v : Value} :
    Gives (fun a => ev.evaluate (.list (sub :: fs)) a) s v ↔ Piped ev sub fs s v := by
  change (alone ev s (.list (sub :: fs))).1 = .ok v ↔ _
  rw [alone_pipeline ev sub h, Piped]
  cases (alone ev s sub).1 with
  | error x => simp [Except.bind]
  | ok u =>
    cases hc : compose ev fs u with
    | error fault => simp [Except.bind, Except.mapError, hc]
    | ok w => simp [Except.bind, Except.mapError, hc]

/-- **A list with several dividers goes from scope to scope.** Take any queries, at least one, and
any rule that is no function, in any scope and with any filters, and a store that reading queries
has filled in any way. A list or tuple of the queries, the rule and any functions is the recursion
on the queries whose innermost level is the rule and then the functions. It gives a value exactly
if the queries are accepted on the way and the functions make a value of that of the rule in every
innermost scope. Its value is made of these, so the functions are run once in each of these scopes,
and neither on a list of their results nor where nothing matches. If queries lead to no scope, it
makes no difference what stands behind them, be it a rule or not, unless it begins with a function,
before which the last of them is no divider. -/
theorem outcome_chain (ev : Evaluator) (s : σ) (first : String) (more : List String)
    (sub : Value) (hsub : sub.isFunction = false) (form : List Value → Value)
    (hform : form = .list ∨ form = .tuple) (capacity : Int) (uses : List Query.Use)
    (ns : List Notice) :
    let queries := first :: more
    let whole (items : List Value) : Evaluation Value :=
      ev.evaluate (form (queries.map .text ++ items)) s
    let t : Trace := ⟨.filled capacity uses, ns⟩
    (∀ fs : List Value, (∀ f ∈ fs, f.isFunction = true) →
      whole (sub :: fs) = nest (fun a => do ev.runFunctions fs (← ev.evaluate sub a)) queries s ∧
      ∀ v ws, (whole (sub :: fs)).outcomeFrom t = (.ok v, ws) ↔
        Nested (Piped ev sub fs) queries s v ∧
          ws = (innermost queries s).flatMap fun a => (alone ev a sub).2) ∧
    (innermost queries s = [] → ∀ (rest : List Value) (sub' : Value) (rest' : List Value),
      sub'.isFunction = false →
        (whole (sub :: rest)).outcomeFrom t = (whole (sub' :: rest')).outcomeFrom t) := by
  intro queries whole t
  have ht : t.cache.Faithful := Query.Cache.faithful_filled capacity uses
  have hwhole {sub : Value} (hsub : sub.isFunction = false) (rest : List Value) :
      whole (sub :: rest) = nest (fun a => ev.evaluate (.list (sub :: rest)) a) queries s :=
    evaluate_queries ev hsub rest first more hform s
  have hlevel (rest : List Value) (a : σ) : (ev.evaluate (.list rest) a).Settled :=
    ev.settled_evaluate (.list rest) a
  refine ⟨fun fs hfs => ⟨?_, fun v ws => ?_⟩, fun hnone rest sub' rest' hsub' => ?_⟩
  · simp only [hwhole hsub fs, evaluate_pipeline ev sub hfs]
  · have hgives : Gives (fun a : σ => ev.evaluate (.list (sub :: fs)) a) = Piped ev sub fs :=
      funext fun a => funext fun w => propext (gives_pipeline_iff hfs)
    have hwarnings (a : σ) : (alone ev a (.list (sub :: fs))).2 = (alone ev a sub).2 := by
      rw [alone_pipeline ev sub hfs]
    rw [hwhole hsub fs, ← (settled_nest (hlevel (sub :: fs)) queries s).yields_iff ht,
      yields_nest_ok_iff (hlevel (sub :: fs)), hgives, ← funext hwarnings]
    rfl
  · rw [hwhole hsub rest, hwhole hsub' rest']
    refine outcomeFrom_nest_congr (hlevel _) (hlevel _) ht fun a ha => ?_
    rw [hnone] at ha
    cases ha

/-- A list of two queries, of which the second one finds a node in the scope of the first row only,
and a query that finds nothing before items that are no rule. -/
theorem outcome_chain_rows :
    let ev : Evaluator := ⟨.builtin, Procedure.interpreter⟩
    let cell : TableScope := .node [("text", .text " x ")] []
    let page : TableScope := .node [] [("row", [.node [] [("b", [cell, cell])], .node [] []])]
    let upper : Value := .function "upper" []
    let wrap : Value := .function "wrap" []
    let whole (items : List Value) := (ev.evaluate (.tuple items) page).outcomeFrom
      ⟨.filled 1 [.read (.text "[row]"), .read (.text "b")], []⟩
    let rows : Value := .list [.list [.text "X"], .null]
    (whole [.text "[row]", .text "b", .text "@text | trim", upper, wrap]).1 = .ok rows ∧
      Nested (Piped ev (.text "@text | trim") [upper, wrap]) ["[row]", "b"] page rows ∧
      whole [.text "i", .null, .null, upper] = whole [.text "i", .text "b"] := by
  intro ev cell page upper wrap whole rows
  have hrows : (whole [.text "[row]", .text "b", .text "@text | trim", upper, wrap]).1 =
      .ok rows := by decide +kernel
  obtain ⟨hchain, -⟩ := outcome_chain ev page "[row]" ["b"] (.text "@text | trim") rfl
    .tuple (.inr rfl) 1 [.read (.text "[row]"), .read (.text "b")] []
  obtain ⟨-, hvalue⟩ := hchain [upper, wrap] (by decide)
  obtain ⟨-, hnone⟩ := outcome_chain ev page "i" [] .null rfl .tuple (.inr rfl) 1
    [.read (.text "[row]"), .read (.text "b")] []
  exact ⟨hrows, ((hvalue rows _).1 (Prod.ext hrows rfl)).1,
    hnone (by decide +kernel) [.null, upper] (.text "b") [] rfl⟩

end Rule

end Extraction
