import Extraction.Proofs.Query.Store
import Mathlib.Data.List.Forall2

/-!
# What computations yield

Most computations use the store of descriptors and yet yield the same whatever is in it, as long as
it is faithful. Such a computation is settled: it has one result and one list of warnings, and it
leaves a faithful store. This file builds up settled computations from reading queries, notices and
failures.

## Main definitions

* `Evaluation.Yields` : what a computation yields from every trace whose store is faithful.
* `Evaluation.Settled` : a computation that yields something.
* `Evaluation.result` : the result of a computation that begins with an empty store.
* `Query.meaning` : the descriptor of a query, or why it has none.

## Main results

* `Evaluation.yields_bind_iff` : what one computation after another yields.
* `Evaluation.yields_mapM_ok_iff`, `Evaluation.yields_mapM_error_iff` : what a computation yields
  for the items of a list.
* `Query.yields_parse` : reading a query by way of the store yields its meaning.
-/

namespace Extraction

theorem Trace.faithful_empty : ({} : Trace).cache.Faithful :=
  Query.Cache.faithful_empty _

namespace Evaluation

variable {α β : Type}

/-- From every trace whose store is faithful, a computation has the given result, adds notices
whose warnings are the given ones, and leaves a faithful store. -/
structure Yields (e : Evaluation α) (r : Except Failure α) (ws : List Notice) : Prop where
  result : ∀ {t : Trace}, t.cache.Faithful → (e.runFrom t).1 = r
  faithful : ∀ {t : Trace}, t.cache.Faithful → (e.runFrom t).2.cache.Faithful
  notices : ∀ {t : Trace}, t.cache.Faithful →
    ∃ ns, (e.runFrom t).2.notices = t.notices ++ ns ∧ Notice.warnings ns = ws

/-- A computation that yields the same from every trace whose store is faithful. -/
def Settled (e : Evaluation α) : Prop :=
  ∃ r ws, e.Yields r ws

theorem Yields.settled {e : Evaluation α} {r : Except Failure α} {ws : List Notice}
    (h : e.Yields r ws) : e.Settled :=
  ⟨r, ws, h⟩

theorem Yields.outcomeFrom {e : Evaluation α} {r : Except Failure α} {ws : List Notice}
    (h : e.Yields r ws) {t : Trace} (ht : t.cache.Faithful) : e.outcomeFrom t = (r, ws) := by
  obtain ⟨ns, hns, rfl⟩ := h.notices ht
  rw [Evaluation.outcomeFrom, h.result ht, hns, List.drop_left]

/-- A settled computation yields its outcome from any trace whose store is faithful. -/
theorem Settled.yields {e : Evaluation α} (h : e.Settled) {t : Trace} (ht : t.cache.Faithful) :
    e.Yields (e.outcomeFrom t).1 (e.outcomeFrom t).2 := by
  obtain ⟨r, ws, hy⟩ := h
  rw [hy.outcomeFrom ht]
  exact hy

/-- What a computation yields is unique. -/
theorem Yields.unique {e : Evaluation α} {r r' : Except Failure α} {ws ws' : List Notice}
    (h : e.Yields r ws) (h' : e.Yields r' ws') : r = r' ∧ ws = ws' := by
  exact Prod.ext_iff.1
    ((h.outcomeFrom Trace.faithful_empty).symm.trans (h'.outcomeFrom Trace.faithful_empty))

theorem Settled.outcomeFrom_eq {e : Evaluation α} (h : e.Settled) {t t' : Trace}
    (ht : t.cache.Faithful) (ht' : t'.cache.Faithful) : e.outcomeFrom t = e.outcomeFrom t' := by
  obtain ⟨r, ws, hy⟩ := h
  rw [hy.outcomeFrom ht, hy.outcomeFrom ht']

/-- A settled computation yields what its outcome is, from any trace whose store is faithful. -/
theorem Settled.yields_iff {e : Evaluation α} (h : e.Settled) {t : Trace} (ht : t.cache.Faithful)
    {r : Except Failure α} {ws : List Notice} : e.Yields r ws ↔ e.outcomeFrom t = (r, ws) := by
  constructor
  · exact fun hy => hy.outcomeFrom ht
  · intro hr
    have hy := h.yields ht
    rwa [hr] at hy

/-! ### Basic computations -/

theorem yields_pure (a : α) : (pure a : Evaluation α).Yields (.ok a) [] where
  result _ := rfl
  faithful ht := ht
  notices _ := ⟨[], by simp, rfl⟩

theorem yields_throw (f : Failure) : (throw f : Evaluation α).Yields (.error f) [] where
  result _ := rfl
  faithful ht := ht
  notices _ := ⟨[], by simp, rfl⟩

theorem yields_note (ns : List Notice) : (note ns).Yields (.ok ()) (Notice.warnings ns) where
  result _ := rfl
  faithful ht := ht
  notices _ := ⟨ns, rfl, rfl⟩

theorem Yields.bind {e : Evaluation α} {f : α → Evaluation β} {a : α} {r : Except Failure β}
    {us vs : List Notice} (he : e.Yields (.ok a) us) (hf : (f a).Yields r vs) :
    (e >>= f).Yields r (us ++ vs) := by
  have key : ∀ {t : Trace}, t.cache.Faithful →
      (e >>= f).runFrom t = (f a).runFrom (e.runFrom t).2 := by
    intro t ht
    have hr := he.result ht
    rw [runFrom_bind]
    generalize e.runFrom t = p at hr
    obtain ⟨r', t'⟩ := p
    subst hr
    rfl
  refine ⟨fun ht => ?_, fun ht => ?_, fun ht => ?_⟩
  · rw [key ht]
    exact hf.result (he.faithful ht)
  · rw [key ht]
    exact hf.faithful (he.faithful ht)
  · obtain ⟨ns, hns, rfl⟩ := he.notices ht
    obtain ⟨ms, hms, rfl⟩ := hf.notices (he.faithful ht)
    exact ⟨ns ++ ms, by rw [key ht, hms, hns, List.append_assoc], Notice.warnings_append ns ms⟩

theorem Yields.bind_error {e : Evaluation α} {x : Failure} {us : List Notice}
    (he : e.Yields (.error x) us) (f : α → Evaluation β) : (e >>= f).Yields (.error x) us := by
  have key : ∀ {t : Trace}, t.cache.Faithful →
      (e >>= f).runFrom t = (.error x, (e.runFrom t).2) := by
    intro t ht
    have hr := he.result ht
    rw [runFrom_bind]
    generalize e.runFrom t = p at hr
    obtain ⟨r', t'⟩ := p
    subst hr
    rfl
  refine ⟨fun ht => ?_, fun ht => ?_, fun ht => ?_⟩
  · rw [key ht]
  · rw [key ht]
    exact he.faithful ht
  · rw [key ht]
    exact he.notices ht

theorem settled_pure (a : α) : (pure a : Evaluation α).Settled :=
  (yields_pure a).settled

theorem settled_throw (f : Failure) : (throw f : Evaluation α).Settled :=
  (yields_throw f).settled

theorem settled_ofExcept : (r : Except Fault α) → (ofExcept r).Settled
  | .ok _ => settled_pure _
  | .error _ => settled_throw _

theorem settled_note (ns : List Notice) : (note ns).Settled :=
  (yields_note ns).settled

theorem Settled.bind {e : Evaluation α} {f : α → Evaluation β} (he : e.Settled)
    (hf : ∀ a, (f a).Settled) : (e >>= f).Settled := by
  obtain ⟨r, us, he⟩ := he
  cases r with
  | error x => exact (he.bind_error f).settled
  | ok a =>
    obtain ⟨r, vs, hf⟩ := hf a
    exact (he.bind hf).settled

/-- The outcome of one settled computation after another is put together from their outcomes. -/
theorem Settled.outcomeFrom_bind {e : Evaluation α} {f : α → Evaluation β} (he : e.Settled)
    (hf : ∀ a, (f a).Settled) {t : Trace} (ht : t.cache.Faithful) :
    (e >>= f).outcomeFrom t =
      match e.outcomeFrom t with
      | (.ok a, us) => (((f a).outcomeFrom t).1, us ++ ((f a).outcomeFrom t).2)
      | (.error x, us) => (.error x, us) := by
  obtain ⟨r, us, he⟩ := he
  rw [he.outcomeFrom ht]
  cases r with
  | error x => exact (he.bind_error f).outcomeFrom ht
  | ok a => exact (he.bind ((hf a).yields ht)).outcomeFrom ht

/-- The outcome depends on the second computation only for what the first one gives. -/
theorem Settled.outcomeFrom_bind_congr {e : Evaluation α} {f g : α → Evaluation β}
    (he : e.Settled) (hf : ∀ a, (f a).Settled) (hg : ∀ a, (g a).Settled) {t : Trace}
    (ht : t.cache.Faithful)
    (h : ∀ a, (e.outcomeFrom t).1 = .ok a → (f a).outcomeFrom t = (g a).outcomeFrom t) :
    (e >>= f).outcomeFrom t = (e >>= g).outcomeFrom t := by
  rw [he.outcomeFrom_bind hf ht, he.outcomeFrom_bind hg ht]
  rcases hr : e.outcomeFrom t with ⟨x | a, us⟩
  · rfl
  · simp only [h a (congrArg Prod.fst hr)]

/-- What one settled computation after another yields: the first one fails, or the second one
goes on with its result. -/
theorem yields_bind_iff {e : Evaluation α} {f : α → Evaluation β} {r : Except Failure β}
    {ws : List Notice} (he : e.Settled) (hf : ∀ a, (f a).Settled) :
    (e >>= f).Yields r ws ↔
      (∃ x, e.Yields (.error x) ws ∧ r = .error x) ∨
        ∃ a us vs, e.Yields (.ok a) us ∧ (f a).Yields r vs ∧ ws = us ++ vs := by
  constructor
  · intro h
    obtain ⟨r', us, he⟩ := he
    cases r' with
    | error x =>
      obtain ⟨rfl, rfl⟩ := h.unique (he.bind_error f)
      exact .inl ⟨x, he, rfl⟩
    | ok a =>
      obtain ⟨r', vs, hf⟩ := hf a
      obtain ⟨rfl, rfl⟩ := h.unique (he.bind hf)
      exact .inr ⟨a, us, vs, he, hf, rfl⟩
  · rintro (⟨x, he, rfl⟩ | ⟨a, us, vs, he, hf, rfl⟩)
    · exact he.bind_error f
    · exact he.bind hf

/-- Two settled computations one after another succeed if both of them do. -/
theorem yields_bind_ok_iff {e : Evaluation α} {f : α → Evaluation β} {b : β} {ws : List Notice}
    (he : e.Settled) (hf : ∀ a, (f a).Settled) :
    (e >>= f).Yields (.ok b) ws ↔
      ∃ a us vs, e.Yields (.ok a) us ∧ (f a).Yields (.ok b) vs ∧ ws = us ++ vs := by
  rw [yields_bind_iff he hf]
  constructor
  · rintro (⟨x, -, hx⟩ | h)
    · cases hx
    · exact h
  · exact .inr

/-- Two settled computations one after another fail if the first one does, or the second one after
the first one has succeeded. -/
theorem yields_bind_error_iff {e : Evaluation α} {f : α → Evaluation β} {x : Failure}
    {ws : List Notice} (he : e.Settled) (hf : ∀ a, (f a).Settled) :
    (e >>= f).Yields (.error x) ws ↔
      e.Yields (.error x) ws ∨
        ∃ a us vs, e.Yields (.ok a) us ∧ (f a).Yields (.error x) vs ∧ ws = us ++ vs := by
  rw [yields_bind_iff he hf]
  refine or_congr_left ⟨?_, fun h => ⟨x, h, rfl⟩⟩
  rintro ⟨y, h, hxy⟩
  obtain rfl := Except.error.inj hxy
  exact h

theorem not_yields_pure_error {a : α} {x : Failure} {ws : List Notice} :
    ¬(pure a : Evaluation α).Yields (.error x) ws := fun h => by
  cases (h.unique (yields_pure a)).1

theorem yields_pure_ok_iff {a b : α} {ws : List Notice} :
    (pure a : Evaluation α).Yields (.ok b) ws ↔ b = a ∧ ws = [] := by
  constructor
  · intro h
    obtain ⟨hr, hws⟩ := h.unique (yields_pure a)
    exact ⟨Except.ok.inj hr, hws⟩
  · rintro ⟨rfl, rfl⟩
    exact yields_pure _

/-- Wrapping the result of a settled computation. -/
theorem yields_map_ok_iff {e : Evaluation α} (he : e.Settled) {g : α → β} {b : β}
    {ws : List Notice} :
    (e >>= fun a => pure (g a)).Yields (.ok b) ws ↔ ∃ a, e.Yields (.ok a) ws ∧ b = g a := by
  rw [yields_bind_ok_iff he fun _ => settled_pure _]
  constructor
  · rintro ⟨a, us, vs, ha, hb, rfl⟩
    rw [yields_pure_ok_iff] at hb
    obtain ⟨rfl, rfl⟩ := hb
    exact ⟨a, by rwa [List.append_nil], rfl⟩
  · rintro ⟨a, ha, rfl⟩
    exact ⟨a, ws, [], ha, yields_pure _, (List.append_nil ws).symm⟩

/-- Wrapping the result of a settled computation keeps its failures. -/
theorem yields_map_error_iff {e : Evaluation α} (he : e.Settled) {g : α → β} {x : Failure}
    {ws : List Notice} :
    (e >>= fun a => pure (g a)).Yields (.error x) ws ↔ e.Yields (.error x) ws := by
  rw [yields_bind_error_iff he fun _ => settled_pure _]
  simp [not_yields_pure_error]

/-! ### One computation for every item of a list -/

variable {γ : Type}

theorem Settled.mapM {f : γ → Evaluation α} (hf : ∀ c, (f c).Settled) (cs : List γ) :
    (cs.mapM f).Settled := by
  induction cs with
  | nil => exact settled_pure _
  | cons c cs ih =>
    rw [List.mapM_cons]
    exact (hf c).bind fun a => ih.bind fun as => settled_pure _

/-- Computations that have the same outcome for every item of a list have the same for the list. -/
theorem outcomeFrom_mapM_congr {f g : γ → Evaluation α} (hf : ∀ c, (f c).Settled)
    (hg : ∀ c, (g c).Settled) {cs : List γ} {t : Trace} (ht : t.cache.Faithful)
    (h : ∀ c ∈ cs, (f c).outcomeFrom t = (g c).outcomeFrom t) :
    (cs.mapM f).outcomeFrom t = (cs.mapM g).outcomeFrom t := by
  induction cs with
  | nil => rfl
  | cons c cs ih =>
    obtain ⟨hc, hcs⟩ := List.forall_mem_cons.1 h
    rw [List.mapM_cons, List.mapM_cons,
      (hf c).outcomeFrom_bind (fun _ => (Settled.mapM hf cs).bind fun _ => settled_pure _) ht,
      (hg c).outcomeFrom_bind (fun _ => (Settled.mapM hg cs).bind fun _ => settled_pure _) ht, hc]
    simp only [outcomeFrom_map, ih hcs]

/-- There is a list of results if there is a result for every item. -/
theorem exists_forall₂_iff {R : γ → α → Prop} {cs : List γ} :
    (∃ as, List.Forall₂ R cs as) ↔ ∀ c ∈ cs, ∃ a, R c a := by
  induction cs with
  | nil => simp
  | cons c cs ih =>
    rw [List.forall_mem_cons, ← ih]
    constructor
    · rintro ⟨as, h⟩
      cases h with
      | cons ha has => exact ⟨⟨_, ha⟩, _, has⟩
    · rintro ⟨⟨a, ha⟩, as, has⟩
      exact ⟨a :: as, .cons ha has⟩

/-- What a computation yields for several items, one after another, if it succeeds for all of
them: every item's own result, and the warnings of all items, in order. -/
theorem yields_mapM_ok_iff {f : γ → Evaluation α} (hf : ∀ c, (f c).Settled) {cs : List γ}
    {as : List α} {ws : List Notice} :
    (cs.mapM f).Yields (.ok as) ws ↔
      List.Forall₂ (fun c a => ((f c).outcomeFrom {}).1 = .ok a) cs as ∧
        ws = cs.flatMap fun c => ((f c).outcomeFrom {}).2 := by
  induction cs generalizing as ws with
  | nil => rw [List.mapM_nil, yields_pure_ok_iff, List.forall₂_nil_left_iff, List.flatMap_nil]
  | cons c cs ih =>
    have hcs : (cs.mapM f).Settled := Settled.mapM hf cs
    rw [List.mapM_cons, yields_bind_ok_iff (hf c) fun _ => hcs.bind fun _ => settled_pure _]
    simp only [yields_map_ok_iff hcs, ih, (hf c).yields_iff Trace.faithful_empty, List.flatMap_cons]
    constructor
    · rintro ⟨a, us, vs, ha, ⟨as', ⟨has, rfl⟩, rfl⟩, rfl⟩
      rw [ha]
      exact ⟨.cons (congrArg Prod.fst ha) has, rfl⟩
    · rintro ⟨h, rfl⟩
      cases h with
      | @cons _ a _ as' ha has => exact ⟨a, _, _, Prod.ext ha rfl, ⟨as', ⟨has, rfl⟩, rfl⟩, rfl⟩

/-- If a computation for every item of a list succeeds, it yields every item's own result, in
order. -/
theorem Yields.forall₂_of_mapM {f : γ → Evaluation α} (hf : ∀ c, (f c).Settled) {cs : List γ}
    {as : List α} {ws : List Notice} (h : (cs.mapM f).Yields (.ok as) ws) :
    List.Forall₂ (fun c a => ∃ us, (f c).Yields (.ok a) us) cs as :=
  ((yields_mapM_ok_iff hf).1 h).1.imp fun c _ hc =>
    ⟨_, ((hf c).yields_iff Trace.faithful_empty).2 (Prod.ext hc rfl)⟩

/-- What a computation yields for several items, one after another, if it fails: what it yields for
the first item for which it fails, after the warnings of the items before that. -/
theorem yields_mapM_error_iff {f : γ → Evaluation α} (hf : ∀ c, (f c).Settled) {cs : List γ}
    {x : Failure} {ws : List Notice} :
    (cs.mapM f).Yields (.error x) ws ↔
      ∃ before c later, cs = before ++ c :: later ∧
        (∀ b ∈ before, ∃ a, ((f b).outcomeFrom {}).1 = .ok a) ∧
        ((f c).outcomeFrom {}).1 = .error x ∧
        ws = (before.flatMap fun b => ((f b).outcomeFrom {}).2) ++ ((f c).outcomeFrom {}).2 := by
  induction cs generalizing ws with
  | nil =>
    rw [List.mapM_nil]
    exact iff_of_false not_yields_pure_error fun ⟨before, c, later, h, _⟩ => by simp at h
  | cons c cs ih =>
    have hcs : (cs.mapM f).Settled := Settled.mapM hf cs
    rw [List.mapM_cons, yields_bind_error_iff (hf c) fun _ => hcs.bind fun _ => settled_pure _]
    simp only [yields_map_error_iff hcs, ih, (hf c).yields_iff Trace.faithful_empty]
    constructor
    · rintro (hc | ⟨a, us, vs, ha, ⟨before, d, later, rfl, hbefore, hd, rfl⟩, rfl⟩)
      · exact ⟨[], c, cs, rfl, by simp, congrArg Prod.fst hc, by rw [hc]; rfl⟩
      · refine ⟨c :: before, d, later, rfl, ?_, hd, ?_⟩
        · exact List.forall_mem_cons.2 ⟨⟨a, congrArg Prod.fst ha⟩, hbefore⟩
        · rw [List.flatMap_cons, ha, List.append_assoc]
    · rintro ⟨before, d, later, hsplit, hbefore, hd, rfl⟩
      cases before with
      | nil =>
        obtain ⟨rfl, rfl⟩ := List.cons.inj hsplit
        exact .inl (Prod.ext hd rfl)
      | cons b before =>
        obtain ⟨rfl, rfl⟩ := List.cons.inj hsplit
        obtain ⟨⟨a, ha⟩, hbefore⟩ := List.forall_mem_cons.1 hbefore
        refine .inr ⟨a, _, _, Prod.ext ha rfl, ⟨before, d, later, rfl, hbefore, hd, rfl⟩, ?_⟩
        rw [List.flatMap_cons, List.append_assoc]

/-! ### Results -/

/-- The result of a computation that begins with an empty store. -/
def result (e : Evaluation α) : Except Failure α :=
  (e.outcomeFrom {}).1

theorem result_pure (a : α) : (pure a : Evaluation α).result = .ok a :=
  rfl

theorem Yields.result_eq {e : Evaluation α} {r : Except Failure α} {ws : List Notice}
    (h : e.Yields r ws) : e.result = r :=
  congrArg Prod.fst (h.outcomeFrom Trace.faithful_empty)

/-- The result of a settled computation is the same from any trace whose store is faithful. -/
theorem Settled.outcomeFrom_fst {e : Evaluation α} (h : e.Settled) {t : Trace}
    (ht : t.cache.Faithful) : (e.outcomeFrom t).1 = e.result :=
  congrArg Prod.fst (h.outcomeFrom_eq ht Trace.faithful_empty)

theorem Settled.result_bind {e : Evaluation α} {f : α → Evaluation β} (he : e.Settled)
    (hf : ∀ a, (f a).Settled) : (e >>= f).result = e.result >>= fun a => (f a).result := by
  rw [result, result, he.outcomeFrom_bind hf Trace.faithful_empty]
  rcases e.outcomeFrom {} with ⟨x | a, us⟩
  · rfl
  · rfl

theorem result_map (e : Evaluation α) (g : α → β) :
    (e >>= fun a => pure (g a)).result = e.result.map g :=
  congrArg Prod.fst (outcomeFrom_map e g {})

theorem Settled.result_eq_iff {e : Evaluation α} (h : e.Settled) {r : Except Failure α} :
    e.result = r ↔ ∃ ws, e.Yields r ws := by
  constructor
  · rintro rfl
    exact ⟨_, h.yields Trace.faithful_empty⟩
  · rintro ⟨ws, hy⟩
    exact hy.result_eq

theorem result_mapM_ok_iff {f : γ → Evaluation α} (hf : ∀ c, (f c).Settled) {cs : List γ}
    {as : List α} :
    (cs.mapM f).result = .ok as ↔ List.Forall₂ (fun c a => (f c).result = .ok a) cs as := by
  rw [(Settled.mapM hf cs).result_eq_iff]
  simp only [yields_mapM_ok_iff hf, exists_and_left, exists_eq, and_true]
  rfl

theorem result_mapM_error_iff {f : γ → Evaluation α} (hf : ∀ c, (f c).Settled) {cs : List γ}
    {x : Failure} :
    (cs.mapM f).result = .error x ↔
      ∃ before c later, cs = before ++ c :: later ∧ (∀ b ∈ before, ∃ a, (f b).result = .ok a) ∧
        (f c).result = .error x := by
  rw [(Settled.mapM hf cs).result_eq_iff]
  simp only [yields_mapM_error_iff hf]
  constructor
  · rintro ⟨ws, before, c, later, hcs, hbefore, hc, -⟩
    exact ⟨before, c, later, hcs, hbefore, hc⟩
  · rintro ⟨before, c, later, hcs, hbefore, hc⟩
    exact ⟨_, before, c, later, hcs, hbefore, hc, rfl⟩

end Evaluation

/-! ### Reading queries -/

namespace Query

/-- The descriptor of a query, or why it has none. -/
def meaning (query : Value) : Except Failure Descriptor :=
  match trimmedText query with
  | .error cause => .error (refusal query "" cause)
  | .ok text => (Descriptor.read text.toList).mapError (refusal query text)

/-- Reading a query by way of a faithful store yields its meaning and no warning. -/
theorem yields_parse (query : Value) : (parse query).Yields (meaning query) [] := by
  unfold meaning
  cases h : trimmedText query with
  | error cause =>
    refine ⟨fun _ => ?_, fun ht => Cache.Faithful.parse ht query, fun _ => ⟨[], ?_, rfl⟩⟩
    · rw [runFrom_parse, h]
    · simp [runFrom_parse, h]
  | ok text =>
    refine ⟨fun {t} ht => ?_, fun ht => Cache.Faithful.parse ht query, fun {t} _ => ?_⟩
    · rw [runFrom_parse, h]
      cases hget : t.cache.get? text with
      | some d => simp [ht text d hget, Except.mapError, hget]
      | none =>
        cases hread : Descriptor.read text.toList with
        | error cause => simp [Except.mapError, hget, hread]
        | ok d => simp [Except.mapError, hget, hread]
    · rw [runFrom_parse, h]
      cases hget : t.cache.get? text with
      | some d => exact ⟨[], by simp [hget], rfl⟩
      | none =>
        cases hread : Descriptor.read text.toList with
        | error cause => exact ⟨[.cacheMiss text], by simp [hget, hread], rfl⟩
        | ok d => exact ⟨[.cacheMiss text, .queryRead text d], by simp [hget, hread], rfl⟩

theorem settled_parse (query : Value) : (parse query).Settled :=
  (yields_parse query).settled

end Query

end Extraction
