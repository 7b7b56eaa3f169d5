import Extraction.Proofs.Evaluation.Unregistered
import Extraction.Proofs.Rule.Nesting

/-!
# The queries that an evaluation comes to

An evaluation of a rule comes to queries in two places: a query that stands by itself is a leaf and
gives a value, and a query before a rule divides a list. What fails at a leaf that is reached fails
the whole evaluation. A name without a filter fails at a leaf, and only there: the chain of a query
that divides a list is read, but its filters are neither looked up nor run.

## Main definitions

* `Rule.Place` : the two places of queries.
* `Rule.Reaches` : an evaluation comes to a query in a scope.

## Main results

* `Rule.evaluate_eq_shape` : an evaluation goes by the shape of the rule.
* `Rule.Reaches.result_eq_error` : what fails at a leaf fails the whole evaluation.
* `Rule.result_unknownFilter_iff` : evaluations that fail for a name.
* `Rule.outcome_reached` : names without a filter at leaves and before divided lists.
-/

namespace Extraction.Rule

open Evaluation Evaluator

variable {σ ν : Type} [Scope σ ν]

/-- The two places of queries in a rule. -/
inductive Place where
  /-- The query gives a value. -/
  | leaf
  /-- The query divides a list. -/
  | divider
  deriving DecidableEq, Repr

/-- An evaluation of a rule in a scope comes to a query that stands in a place and is evaluated in a
scope: the entries of a map before the one that leads to it, and the scopes of a divided list before
the one that it lies in, have all given a value. -/
inductive Reaches (ev : Evaluator) : Value → σ → Place → String → σ → Prop
  | leaf {rule : Value} {s : σ} {query : String} (hrule : shape rule = .ok (.literal query)) :
      Reaches ev rule s .leaf query s
  | field {rule sub key : Value} {before later : Entries} {s a : σ} {place : Place} {query : String}
      (hrule : shape rule = .ok (.fields (before ++ (key, sub) :: later)))
      (hbefore : ∀ e ∈ before, ∃ v, (ev.evaluate e.2 s).result = .ok v)
      (hsub : Reaches ev sub s place query a) : Reaches ev rule s place query a
  | lead {rule sub : Value} {fs : List Value} {s a : σ} {place : Place} {query : String}
      (hrule : shape rule = .ok (.pipeline sub fs)) (hsub : Reaches ev sub s place query a) :
      Reaches ev rule s place query a
  | divider {rule : Value} {rest : List Value} {s : σ} {query : String}
      (hrule : shape rule = .ok (.divided query rest)) : Reaches ev rule s .divider query s
  | inner {rule : Value} {rest : List Value} {d : Query.Descriptor} {nodes : List ν}
      {before later : List σ} {s b a : σ} {place : Place} {divider query : String}
      (hrule : shape rule = .ok (.divided divider rest))
      (hd : Query.meaning (.text divider) = .ok d)
      (hnodes : Scope.select s d.selector = .ok nodes)
      (hchosen : chosen d.getAll nodes = before ++ b :: later)
      (hbefore : ∀ c ∈ before, ∃ v, (ev.evaluate (.list rest) c).result = .ok v)
      (hrest : Reaches ev (.list rest) b place query a) : Reaches ev rule s place query a

/-! ### Rules by shapes -/

/-- The rules that a shape is made of. -/
def Shape.rules : Shape → List Value
  | .literal _ | .computed _ => []
  | .fields entries => entries.map Prod.snd
  | .divided _ rest => [.list rest]
  | .pipeline sub _ => [sub]

theorem sizeOf_lt_of_listShape {items : List Value} {found : Shape}
    (h : listShape items = .ok found) {sub : Value} (hsub : sub ∈ found.rules) :
    sizeOf sub < 1 + sizeOf items := by
  cases items with
  | nil => cases h
  | cons lead rest =>
    obtain ⟨arranged, -, rfl⟩ := Result.map_eq_ok_iff.1 h
    cases arranged with
    | divided query =>
      obtain rfl := List.mem_singleton.1 hsub
      rw [Value.list.sizeOf_spec, List.cons.sizeOf_spec]
      omega
    | pipeline =>
      obtain rfl := List.mem_singleton.1 hsub
      rw [List.cons.sizeOf_spec]
      omega

/-- The rules that the shape of a rule is made of are smaller than it. -/
theorem sizeOf_lt_of_shape {rule : Value} {found : Shape} (h : shape rule = .ok found) {sub : Value}
    (hsub : sub ∈ found.rules) : sizeOf sub < sizeOf rule := by
  cases rule with
  | text query =>
    obtain rfl := Except.ok.inj h
    cases hsub
  | function name captured =>
    obtain rfl := Except.ok.inj h
    cases hsub
  | map entries =>
    obtain rfl := Except.ok.inj h
    obtain ⟨⟨key, v⟩, he, rfl⟩ := List.mem_map.1 hsub
    have hlt := List.sizeOf_lt_of_mem he
    rw [Prod.mk.sizeOf_spec] at hlt
    change sizeOf v < sizeOf (Value.map entries)
    rw [Value.map.sizeOf_spec]
    omega
  | list items =>
    rw [Value.list.sizeOf_spec]
    exact sizeOf_lt_of_listShape h hsub
  | tuple items =>
    rw [Value.tuple.sizeOf_spec]
    exact sizeOf_lt_of_listShape h hsub
  | _ => cases h

/-- What holds of a rule if it holds of the rules that its shape is made of holds of every rule. -/
theorem shape_induction {P : Value → Prop}
    (step : ∀ rule, (∀ found, shape rule = .ok found → ∀ sub ∈ found.rules, P sub) → P rule)
    (rule : Value) : P rule :=
  (measure sizeOf).wf.induction rule fun rule ih =>
    step rule fun _ h sub hsub => ih sub (sizeOf_lt_of_shape h hsub)

/-! ### Evaluation by shapes -/

/-- The value of a rule that has a shape; a rule that has none is unusable. -/
def evaluateShape (ev : Evaluator) (rule : Value) : Except Problem Shape → σ → Evaluation Value
  | .error problem, _ => throw (.misuse (.rule problem) rule)
  | .ok (.literal query), s => ev.evaluateQuery query s
  | .ok (.computed f), _ => ev.invoke f []
  | .ok (.fields entries), s => do return .map (← ev.evaluateFields entries s)
  | .ok (.divided query rest), s => do
    let d ← Query.parse (.text query)
    let nodes ← select s d.selector
    deal (fun a : σ => ev.evaluate (.list rest) a) d.getAll nodes
  | .ok (.pipeline sub fs), s => do
    let v ← ev.evaluate sub s
    ev.runFunctions fs v

private theorem evaluateItems_eq_shape (ev : Evaluator) (whole : Value) (items : List Value)
    (s : σ) : ev.evaluateItems whole items s = evaluateShape ev whole (listShape items) s := by
  cases items with
  | nil => rfl
  | cons lead rest =>
    rw [evaluateItems, listShape]
    rcases arrangement lead rest with problem | query | -
    · rfl
    · rfl
    · rfl

/-- An evaluation goes by the shape of the rule. -/
theorem evaluate_eq_shape (ev : Evaluator) (rule : Value) (s : σ) :
    ev.evaluate rule s = evaluateShape ev rule (shape rule) s := by
  cases rule with
  | list items => exact evaluateItems_eq_shape ev _ items s
  | tuple items => exact evaluateItems_eq_shape ev _ items s
  | _ => rfl

variable {ev : Evaluator} {rule : Value} {s : σ}

theorem result_of_literal {query : String} (h : shape rule = .ok (.literal query)) :
    (ev.evaluate rule s).result = (ev.evaluateQuery query s).result := by
  rw [evaluate_eq_shape, h, evaluateShape]

theorem result_of_fields {entries : Entries} (h : shape rule = .ok (.fields entries)) :
    (ev.evaluate rule s).result = (ev.evaluateFields entries s).result.map .map := by
  rw [evaluate_eq_shape, h, evaluateShape, result_map]

theorem result_of_pipeline {sub : Value} {fs : List Value}
    (h : shape rule = .ok (.pipeline sub fs)) :
    (ev.evaluate rule s).result =
      (ev.evaluate sub s).result >>= fun v => (ev.runFunctions fs v).result := by
  rw [evaluate_eq_shape, h, evaluateShape,
    (ev.settled_evaluate sub s).result_bind (ev.settled_runFunctions fs)]

theorem result_of_divided {query : String} {rest : List Value}
    (h : shape rule = .ok (.divided query rest)) :
    (ev.evaluate rule s).result = (do
      let d ← Query.meaning (.text query)
      let nodes ← (select s d.selector).result
      (deal (fun a : σ => ev.evaluate (.list rest) a) d.getAll nodes).result) := by
  have hdeal (getAll : Bool) (nodes : List ν) :=
    settled_deal (fun a : σ => ev.settled_evaluate (.list rest) a) getAll nodes
  rw [evaluate_eq_shape, h, evaluateShape, (Query.settled_parse _).result_bind fun d =>
    (settled_select s _).bind (hdeal d.getAll), (Query.yields_parse _).result_eq]
  simp only [(settled_select s _).result_bind (hdeal _)]

/-- The entries of a map fail as the first rule that fails. -/
theorem result_evaluateFields_error_iff {entries : Entries} {x : Failure} :
    (ev.evaluateFields entries s).result = .error x ↔
      ∃ before e later, entries = before ++ e :: later ∧
        (∀ b ∈ before, ∃ v, (ev.evaluate b.2 s).result = .ok v) ∧
        (ev.evaluate e.2 s).result = .error x := by
  rw [(ev.settled_evaluateFields entries s).result_eq_iff]
  simp only [yields_evaluateFields_error_iff]
  constructor
  · rintro ⟨ws, before, e, later, hentries, hbefore, he, -⟩
    exact ⟨before, e, later, hentries, hbefore, he⟩
  · rintro ⟨before, e, later, hentries, hbefore, he⟩
    exact ⟨_, before, e, later, hentries, hbefore, he, rfl⟩

/-- A level fails as what is behind it does in the first of its scopes in which that fails. -/
theorem result_deal_error_iff {level : σ → Evaluation Value} (h : ∀ a, (level a).Settled)
    {getAll : Bool} {nodes : List ν} {x : Failure} :
    (deal level getAll nodes).result = .error x ↔
      ∃ before a later, chosen getAll nodes = before ++ a :: later ∧
        (∀ b ∈ before, ∃ v, (level b).result = .ok v) ∧ (level a).result = .error x := by
  cases getAll with
  | true =>
    have hmap : nodes.mapM (fun n => level (Scope.enter n)) =
        (chosen true nodes).mapM level := by
      rw [chosen, if_pos rfl, List.mapM_map]
      rfl
    simp only [deal, if_true]
    rw [hmap, result_map, Result.map_eq_error_iff, result_mapM_error_iff h]
  | false =>
    cases nodes with
    | nil =>
      refine iff_of_false (by simp [deal, result_pure]) ?_
      rintro ⟨before, a, later, hsplit, -⟩
      simp [chosen] at hsplit
    | cons n nodes =>
      constructor
      · intro hx
        exact ⟨[], Scope.enter n, [], rfl, by simp, hx⟩
      · rintro ⟨before, a, later, hsplit, -, hx⟩
        cases before with
        | nil =>
          obtain ⟨rfl, -⟩ := List.cons.inj hsplit
          exact hx
        | cons b before => simp [chosen] at hsplit

/-! ### Failures -/

/-- What fails at a leaf that is reached fails the whole evaluation. -/
theorem Reaches.result_eq_error {query : String} {a : σ} {x : Failure}
    (h : Reaches ev rule s .leaf query a) (hx : (ev.evaluateQuery query a).result = .error x) :
    (ev.evaluate rule s).result = .error x := by
  generalize hplace : Place.leaf = place at h
  induction h with
  | leaf hrule =>
    rw [result_of_literal hrule]
    exact hx
  | @field rule sub key before later s a place query hrule hbefore hsub ih =>
    rw [result_of_fields hrule, Result.map_eq_error_iff, result_evaluateFields_error_iff]
    exact ⟨before, (key, sub), later, rfl, hbefore, ih hx hplace⟩
  | lead hrule hsub ih =>
    rw [result_of_pipeline hrule, Result.bind_eq_error_iff]
    exact .inl (ih hx hplace)
  | divider hrule => cases hplace
  | @inner rule rest d nodes before later s b a place divider query hrule hd hnodes hchosen hbefore
      hrest ih =>
    rw [result_of_divided hrule, hd, Result.ok_bind, result_select_ok_iff.2 hnodes, Result.ok_bind,
      result_deal_error_iff fun a => ev.settled_evaluate (.list rest) a]
    exact ⟨before, b, later, hchosen, hbefore, ih hx hplace⟩

/-- Functions applied to a value do not fail for a name. -/
theorem isUnknownFilter_of_runFunctions {fs : List Value} {v : Value} {x : Failure}
    (h : (ev.runFunctions fs v).result = .error x) : x.isUnknownFilter = false := by
  rw [runFunctions_eq] at h
  cases hcompose : compose ev fs v with
  | ok w =>
    rw [hcompose] at h
    cases h
  | error fault =>
    rw [hcompose] at h
    obtain rfl := Except.error.inj h
    rfl

/-- If an evaluation fails for a name, then at a leaf that is reached. -/
theorem exists_reaches_of_unknownFilter {x : Failure} (hx : x.isUnknownFilter = true)
    (h : (ev.evaluate rule s).result = .error x) :
    ∃ query a, Reaches ev rule s .leaf query a ∧ (ev.evaluateQuery query a).result = .error x := by
  have habsurd {f : Failure} (hf : f.isUnknownFilter = false) : x ≠ f := fun hxf =>
    Bool.false_ne_true (hf.symm.trans (hxf ▸ hx))
  induction rule using shape_induction generalizing s with
  | step rule ih =>
  cases hrule : shape rule with
  | error problem =>
    rw [evaluate_eq_shape, hrule] at h
    exact (habsurd rfl (Except.error.inj h).symm).elim
  | ok found =>
    cases found with
    | literal query =>
      rw [result_of_literal hrule] at h
      exact ⟨query, s, .leaf hrule, h⟩
    | computed f =>
      rw [evaluate_eq_shape, hrule, evaluateShape, invoke] at h
      cases hcall : ev.call f [] with
      | ok v =>
        rw [hcall] at h
        cases h
      | error fault =>
        rw [hcall] at h
        exact (habsurd rfl (Except.error.inj h).symm).elim
    | fields entries =>
      rw [result_of_fields hrule, Result.map_eq_error_iff, result_evaluateFields_error_iff] at h
      obtain ⟨before, ⟨key, sub⟩, later, rfl, hbefore, he⟩ := h
      obtain ⟨query, a, hsub, hq⟩ := ih _ hrule sub (by simp [Shape.rules]) he
      exact ⟨query, a, .field hrule hbefore hsub, hq⟩
    | divided divider rest =>
      rw [result_of_divided hrule] at h
      obtain h | ⟨d, hd, h⟩ := Result.bind_eq_error_iff.1 h
      · exact (habsurd (Query.isUnknownFilter_of_meaning h) rfl).elim
      obtain h | ⟨nodes, hnodes, h⟩ := Result.bind_eq_error_iff.1 h
      · exact (habsurd (isUnknownFilter_of_select h) rfl).elim
      obtain ⟨before, b, later, hchosen, hbefore, hb⟩ :=
        (result_deal_error_iff fun a => ev.settled_evaluate (.list rest) a).1 h
      obtain ⟨query, a, hrest, hq⟩ := ih _ hrule _ (List.mem_singleton_self _) hb
      exact ⟨query, a, .inner hrule hd (result_select_ok_iff.1 hnodes) hchosen hbefore hrest, hq⟩
    | pipeline sub fs =>
      rw [result_of_pipeline hrule] at h
      obtain h | ⟨v, -, h⟩ := Result.bind_eq_error_iff.1 h
      · obtain ⟨query, a, hsub, hq⟩ := ih _ hrule sub (List.mem_singleton_self _) h
        exact ⟨query, a, .lead hrule hsub, hq⟩
      · exact (habsurd (isUnknownFilter_of_runFunctions h) rfl).elim

/-- An evaluation fails for a name exactly if it comes to a leaf that can be read, whose selector is
accepted and whose chain has such a name; the failure is that of the first one. -/
theorem result_unknownFilter_iff {x : Failure} :
    (ev.evaluate rule s).result = .error x ∧ x.isUnknownFilter = true ↔
      ∃ query a d nodes call, Reaches ev rule s .leaf query a ∧
        Query.meaning (.text query) = .ok d ∧ Scope.select a d.selector = .ok nodes ∧
        ev.firstUnregistered? d.filters = some call ∧
        x = .unknownFilter call.name ev.registry.names (Scope.taken σ d nodes) query := by
  constructor
  · rintro ⟨h, hx⟩
    obtain ⟨query, a, hreaches, hquery⟩ := exists_reaches_of_unknownFilter hx h
    obtain ⟨d, nodes, call, hfails⟩ := result_evaluateQuery_unknownFilter_iff.1 ⟨hquery, hx⟩
    exact ⟨query, a, d, nodes, call, hreaches, hfails⟩
  · rintro ⟨query, a, d, nodes, call, hreaches, hfails⟩
    obtain ⟨hquery, hx⟩ := result_evaluateQuery_unknownFilter_iff.2 ⟨d, nodes, call, hfails⟩
    exact ⟨hreaches.result_eq_error hquery, hx⟩

/-- A divided list whose query can be read depends on the selector of the query and on whether it is
for every match. -/
theorem outcomeFrom_divided {query : String} {rest : List Value} {d : Query.Descriptor}
    (hrule : shape rule = .ok (.divided query rest)) (hd : Query.meaning (.text query) = .ok d)
    {t : Trace} (ht : t.cache.Faithful) :
    (ev.evaluate rule s).outcomeFrom t = (do
      let nodes ← select s d.selector
      deal (fun a : σ => ev.evaluate (.list rest) a) d.getAll nodes : Evaluation Value).outcomeFrom
        t := by
  have hlevel : (do
      let nodes ← select s d.selector
      deal (fun a : σ => ev.evaluate (.list rest) a) d.getAll nodes : Evaluation Value).Settled :=
    (settled_select s d.selector).bind
      (settled_deal (fun a => ev.settled_evaluate (.list rest) a) d.getAll)
  rw [evaluate_eq_shape, hrule, evaluateShape]
  exact ((Query.yields_parse_ok_iff.2 ⟨hd, rfl⟩).bind (hlevel.yields ht)).outcomeFrom ht

/-- **Names without a filter at leaves and before divided lists.** Take any overlay, any rule and
scope, and a store that reading queries has filled in any way. If the evaluation comes to a leaf
that can be read, whose selector is accepted and whose chain has names without a filter, it fails
for one of these. If it fails for a name, then because it comes to such a leaf. A query that divides
a list makes a difference only through its selector and through whether it is for every match: its
chain may have any names. -/
theorem outcome_reached (overlay : Overlay) (call : Interpreter) (rule : Value) (s : σ)
    (capacity : Int) (uses : List Query.Use) (ns : List Notice) :
    let ev : Evaluator := ⟨.merged overlay, call⟩
    let outcome (rule : Value) := (ev.evaluate rule s).outcomeFrom ⟨.filled capacity uses, ns⟩
    (∀ query a d nodes, Reaches ev rule s .leaf query a → Query.meaning (.text query) = .ok d →
      Scope.select a d.selector = .ok nodes → (∃ c ∈ d.filters, overlay.provides c.name = false) →
        ∃ c ∈ d.filters, overlay.provides c.name = false ∧ (outcome rule).1 =
          .error (.unknownFilter c.name ev.registry.names (Scope.taken σ d nodes) query)) ∧
    (∀ name known v query, (outcome rule).1 = .error (.unknownFilter name known v query) →
      ∃ a d nodes, Reaches ev rule s .leaf query a ∧ Query.meaning (.text query) = .ok d ∧
        Scope.select a d.selector = .ok nodes ∧ v = Scope.taken σ d nodes ∧
        ∃ c ∈ d.filters, c.name = name ∧ overlay.provides name = false) ∧
    (∀ rule' query query' rest d d', shape rule = .ok (.divided query rest) →
      shape rule' = .ok (.divided query' rest) → Query.meaning (.text query) = .ok d →
        Query.meaning (.text query') = .ok d' → d.selector = d'.selector → d.getAll = d'.getAll →
          outcome rule = outcome rule') ∧
    ∀ (name : String) (known : List String) (v : Value) (query : String)
      (explain : String → String), ∃ report,
        (Failure.unknownFilter name known v query).describe explain = .ok report ∧
          report.kind = "FilterError" ∧
          report.details = [(.text "filter_name", .text name), (.text "value", v),
            (.text "query", .text query)] := by
  intro ev outcome
  have ht : (⟨.filled capacity uses, ns⟩ : Trace).cache.Faithful :=
    Query.Cache.faithful_filled capacity uses
  have hresult : (outcome rule).1 = (ev.evaluate rule s).result :=
    (ev.settled_evaluate rule s).outcomeFrom_fst ht
  rw [hresult]
  refine ⟨fun query a d nodes hreaches hd hnodes hlacks => ?leaf, fun name known v query h => ?name,
    fun rule' query query' rest d d' hrule hrule' hd hd' hselector hall => ?divider,
    fun name known v query explain => ⟨_, rfl, rfl, rfl⟩⟩
  case leaf =>
    obtain ⟨c, hc⟩ := exists_first_of_exists hlacks
    have hfirst : ev.firstUnregistered? d.filters = some c :=
      (firstUnregistered?_merged overlay call d.filters).trans hc
    obtain ⟨hfails, -⟩ := result_unknownFilter_iff.2
      ⟨query, a, d, nodes, c, hreaches, hd, hnodes, hfirst, rfl⟩
    exact ⟨c, List.mem_of_find?_eq_some hc, by simpa using List.find?_some hc, hfails⟩
  case name =>
    obtain ⟨q, a, d, nodes, c, hreaches, hd, hnodes, hfirst, hx⟩ :=
      result_unknownFilter_iff.1 ⟨h, rfl⟩
    obtain ⟨rfl, rfl, rfl, rfl⟩ := Failure.unknownFilter.inj hx
    rw [firstUnregistered?_merged] at hfirst
    exact ⟨a, d, nodes, hreaches, hd, hnodes, rfl, c, List.mem_of_find?_eq_some hfirst, rfl,
      by simpa using List.find?_some hfirst⟩
  case divider =>
    change (ev.evaluate rule s).outcomeFrom _ = (ev.evaluate rule' s).outcomeFrom _
    rw [outcomeFrom_divided hrule hd ht, outcomeFrom_divided hrule' hd' ht, hselector, hall]

/-- A map whose second entry is divided, with an unknown name at a leaf in the first row. -/
theorem outcome_reached_rows :
    let ev : Evaluator := ⟨.merged [("trim", .null)], Procedure.interpreter⟩
    let row (text : String) : TableScope := .node [("text", .text text)] []
    let page : TableScope := .node [] [("b", [row "x", row "y"])]
    let names : Value := .map [(.text "name", .text "@text | upper | trim")]
    let rows : Value := .list [.text "[b]", names]
    let rule : Value := .map [(.text "title", .text "h1"), (.text "rows", rows)]
    let outcome (rule : Value) := (ev.evaluate rule page).outcomeFrom
      ⟨.filled 1 [.read (.text "h1")], []⟩
    Reaches ev rule page .leaf "@text | upper | trim" (row "x") ∧
      (outcome rule).1 = .error (.unknownFilter "trim" ev.registry.names (.text "x")
        "@text | upper | trim") := by
  intro ev row page names rows rule outcome
  have hd : Query.meaning (.text "@text | upper | trim") =
      .ok ⟨none, some "text", [⟨"upper", []⟩, ⟨"trim", []⟩], false⟩ := by decide +kernel
  have hdivider : Query.meaning (.text "[b]") = .ok ⟨some "b", none, [], true⟩ := by decide +kernel
  have hname : Reaches ev names (row "x") .leaf "@text | upper | trim" (row "x") :=
    .field (show shape names = .ok (.fields ([] ++ [(.text "name", _)])) from rfl) (by simp)
      (.leaf rfl)
  have hchosen : chosen true (page.select (some "b")) = [] ++ row "x" :: [row "y"] := rfl
  have hrows : Reaches ev rows page .leaf "@text | upper | trim" (row "x") :=
    .inner rfl hdivider rfl hchosen (by simp) (.lead rfl hname)
  have hentries : shape rule =
      .ok (.fields ([(.text "title", .text "h1")] ++ [(.text "rows", rows)])) := rfl
  have htitle : (ev.evaluate (.text "h1") page).result = .ok .null := by decide +kernel
  have hreaches : Reaches ev rule page .leaf "@text | upper | trim" (row "x") :=
    .field hentries (List.forall_mem_singleton.2 ⟨.null, htitle⟩) hrows
  obtain ⟨hleaf, -, -, -⟩ := outcome_reached [("trim", .null)] Procedure.interpreter rule page 1
    [.read (.text "h1")] []
  obtain ⟨c, hc, hlacks, hfails⟩ :=
    hleaf _ _ _ _ hreaches hd rfl ⟨⟨"trim", []⟩, by simp, by decide +kernel⟩
  obtain rfl | rfl : c = ⟨"upper", []⟩ ∨ c = ⟨"trim", []⟩ := by simpa using hc
  · cases hlacks
  · exact ⟨hreaches, hfails⟩

/-- A list that is divided by a query with an unknown name in its chain: the evaluation comes to the
query, which can be read and whose selector is accepted, and gives the value of the rest. -/
theorem evaluate_divider_unregistered :
    let ev : Evaluator := ⟨.merged [], Procedure.interpreter⟩
    let page : TableScope := .node [] [("b", [.node [("text", .text "y")] []])]
    let rule : Value := .list [.text "b | nope", .text "@text"]
    Reaches ev rule page .divider "b | nope" page ∧
      (∃ d nodes, Query.meaning (.text "b | nope") = .ok d ∧
        Scope.select page d.selector = .ok nodes ∧
        ∃ c ∈ d.filters, Overlay.provides [] c.name = false) ∧
      ((ev.evaluate rule page).outcomeFrom {}).1 = .ok (.text "y") := by
  intro ev page rule
  have hd : Query.meaning (.text "b | nope") = .ok ⟨some "b", none, [⟨"nope", []⟩], false⟩ := by
    decide +kernel
  exact ⟨.divider rfl, ⟨_, _, hd, rfl, ⟨"nope", []⟩, by simp, by decide +kernel⟩, by decide +kernel⟩

end Extraction.Rule
