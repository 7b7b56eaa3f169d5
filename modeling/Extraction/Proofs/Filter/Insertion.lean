import Extraction.Filter.Sequences
import Mathlib.Data.List.Chain
import Mathlib.Order.Lattice
import Mathlib.Tactic.SplitIfs

/-!
# Stable sorting by insertion

A list is sorted from a run at its beginning: the items after the run are put in one by one, each
at a position that is found by halving. Whatever order the items are compared by, none gets lost. If
the order is that of a rank, the items come out rising in rank, and those of equal rank come out as
they went in. A falling run is turned for this, in which no two items have equal rank.

## Main definitions

* `Filter.StablySorted` : a list is another one in the order of a rank.
* `Filter.Ranks` : items are compared by their rank.
* `Filter.Around` : the place of an item in a sorted list lies between two positions.

## Main results

* `Filter.sortBy_perm` : no item gets lost.
* `Filter.StablySorted.unique` : a list has one stable order.
* `Filter.Around.place` : halving finds the place of an item.
* `Filter.StablySorted.insertItem`, `Filter.StablySorted.foldl_insertItem` : what putting in one
  item, and many items, preserves.
* `Filter.stablySorted_sortBy` : sorting by a rank.
-/

namespace Extraction.Filter

variable {α ρ : Type}

/-! ### No item gets lost -/

section Permutation

variable (before : α → α → Bool)

theorem insertItem_perm (out : List α) (x : α) : (insertItem before out x).Perm (out ++ [x]) := by
  unfold insertItem
  refine List.perm_middle.trans ?_
  rw [List.take_append_drop]
  exact (List.perm_append_singleton x out).symm

theorem foldl_insertItem_perm (rest out : List α) :
    (rest.foldl (insertItem before) out).Perm (out ++ rest) := by
  induction rest generalizing out with
  | nil => rw [List.append_nil, List.foldl_nil]
  | cons x rest ih =>
    rw [List.foldl_cons, List.append_cons]
    exact (ih _).trans ((insertItem_perm before out x).append_right rest)

/-- Sorting permutes the items, whatever they are compared by. -/
theorem sortBy_perm : ∀ items : List α, (sortBy before items).Perm items
  | [] => .refl _
  | [_] => .refl _
  | a :: b :: rest => by
    rw [sortBy]
    refine (foldl_insertItem_perm before _ _).trans ?_
    generalize runLength before (before b a) a (b :: rest) + 1 = n
    conv_rhs => rw [← List.take_append_drop n (a :: b :: rest)]
    refine List.Perm.append_right _ ?_
    split_ifs
    · exact List.reverse_perm _
    · exact .refl _

end Permutation

/-- Items whose ranks are in an order with those of their neighbours are in it with all that
follow. -/
theorem pairwise_of_isChain {le : ρ → ρ → Prop} [Trans le le le] {rank : α → ρ} {items : List α}
    (h : items.IsChain fun a b => le (rank a) (rank b)) :
    items.Pairwise fun a b => le (rank a) (rank b) :=
  List.pairwise_map.1 (List.isChain_iff_pairwise.1 ((List.isChain_map rank).2 h))

/-! ### Stable orders -/

variable [LinearOrder ρ]

/-- A list is another one in an order of ranks: it has the same items, their ranks are in the order,
and items of equal rank are as they are in the other. -/
structure StablySorted (le : ρ → ρ → Prop) (rank : α → ρ) (items out : List α) : Prop where
  perm : out.Perm items
  pairwise : out.Pairwise fun a b => le (rank a) (rank b)
  filter_eq : ∀ r, (out.filter fun a => rank a = r) = items.filter fun a => rank a = r

/-- What stably sorts a reversed list stably sorts the list the other way round. -/
theorem StablySorted.reverse {rank : α → ρ} {items out : List α}
    (h : StablySorted (· ≤ ·) rank items.reverse out) :
    StablySorted (· ≥ ·) rank items out.reverse where
  perm := (List.reverse_perm out).trans (h.perm.trans (List.reverse_perm items))
  pairwise := List.pairwise_reverse.2 h.pairwise
  filter_eq r := by rw [List.filter_reverse, h.filter_eq, List.filter_reverse, List.reverse_reverse]

theorem mem_of_filter_rank_eq {rank : α → ρ} {l m : List α} {a : α}
    (h : ∀ r, (l.filter fun a => rank a = r) = m.filter fun a => rank a = r) (ha : a ∈ l) :
    a ∈ m := by
  have hmem : a ∈ l.filter fun b => rank b = rank a := by simp [ha]
  rw [h] at hmem
  exact (List.mem_filter.1 hmem).1

/-- In an order of ranks there is one list whose items of equal rank are as they are in another. -/
theorem eq_of_filter_rank_eq {le : ρ → ρ → Prop} (hle : ∀ r s, le r s → le s r → r = s)
    {rank : α → ρ} {l m : List α} (hl : l.Pairwise fun a b => le (rank a) (rank b))
    (hm : m.Pairwise fun a b => le (rank a) (rank b))
    (h : ∀ r, (l.filter fun a => rank a = r) = m.filter fun a => rank a = r) : l = m := by
  induction l generalizing m with
  | nil =>
    refine (List.eq_nil_iff_forall_not_mem.2 fun a ha => ?_).symm
    exact List.not_mem_nil (mem_of_filter_rank_eq (fun r => (h r).symm) ha)
  | cons a l ih =>
    cases m with
    | nil => exact absurd (mem_of_filter_rank_eq h List.mem_cons_self) List.not_mem_nil
    | cons b m =>
      obtain ⟨hal, hl'⟩ := List.pairwise_cons.1 hl
      obtain ⟨hbm, hm'⟩ := List.pairwise_cons.1 hm
      have hrank : rank a = rank b := by
        rcases List.mem_cons.1 (mem_of_filter_rank_eq h List.mem_cons_self) with rfl | ham
        · rfl
        · rcases List.mem_cons.1 (mem_of_filter_rank_eq (fun r => (h r).symm) List.mem_cons_self)
            with rfl | hbl
          · rfl
          · exact hle _ _ (hal b hbl) (hbm a ham)
      have hhead := h (rank b)
      rw [List.filter_cons_of_pos (by simp [hrank]), List.filter_cons_of_pos (by simp)] at hhead
      obtain ⟨rfl, -⟩ := List.cons.inj hhead
      refine congrArg (a :: ·) (ih hl' hm' fun r => ?_)
      have hr := h r
      by_cases har : rank a = r
      · rw [List.filter_cons_of_pos (by simp [har]), List.filter_cons_of_pos (by simp [har])] at hr
        exact (List.cons.inj hr).2
      · rwa [List.filter_cons_of_neg (by simp [har]), List.filter_cons_of_neg (by simp [har])] at hr

/-- A list has one stable order. -/
theorem StablySorted.unique {le : ρ → ρ → Prop} (hle : ∀ r s, le r s → le s r → r = s)
    {rank : α → ρ} {items out out' : List α} (h : StablySorted le rank items out)
    (h' : StablySorted le rank items out') : out = out' :=
  eq_of_filter_rank_eq hle h.pairwise h'.pairwise fun r => (h.filter_eq r).trans (h'.filter_eq r).symm

/-- A list in an order is its own stable order. -/
theorem StablySorted.self {le : ρ → ρ → Prop} {rank : α → ρ} {items out : List α}
    (h : StablySorted le rank items out) : StablySorted le rank out out :=
  ⟨.refl _, h.pairwise, fun _ => rfl⟩

/-- Items are compared by their rank, as long as something holds of them. -/
def Ranks (before : α → α → Bool) (rank : α → ρ) (p : α → Prop) : Prop :=
  ∀ a b, p a → p b → (before a b = true ↔ rank a < rank b)

variable {before : α → α → Bool} {rank : α → ρ} {p : α → Prop} {items out : List α} {x : α}

/-! ### The place of an item -/

/-- The place of an item in a list lies between two positions: everything before the one has at most
its rank, and everything from the other on a greater one. -/
structure Around (rank : α → ρ) (x : α) (out : List α) (low high : Nat) : Prop where
  le : low ≤ high
  le_length : high ≤ out.length
  below : ∀ a ∈ out.take low, rank a ≤ rank x
  above : ∀ a ∈ out.drop high, rank x < rank a

theorem around_zero_length (rank : α → ρ) (x : α) (out : List α) :
    Around rank x out 0 out.length where
  le := Nat.zero_le _
  le_length := Nat.le_refl _
  below := by simp
  above := by simp

section Halving

variable {low high middle : Nat} (hsorted : out.Pairwise fun a b => rank a ≤ rank b)
  (h : Around rank x out low high) (hmiddle : middle < out.length)

include hsorted h

/-- Everything from an item of greater rank on has a greater rank. -/
theorem Around.lower (hlow : low ≤ middle) (hx : rank x < rank out[middle]) :
    Around rank x out low middle where
  le := hlow
  le_length := hmiddle.le
  below := h.below
  above := by
    have hdrop := hsorted.sublist (List.drop_sublist middle out)
    rw [List.drop_eq_getElem_cons hmiddle] at hdrop ⊢
    intro a ha
    rcases List.mem_cons.1 ha with rfl | ha
    · exact hx
    · exact hx.trans_le ((List.pairwise_cons.1 hdrop).1 a ha)

/-- Everything up to an item of at most the rank has at most the rank. -/
theorem Around.upper (hhigh : middle < high) (hx : rank out[middle] ≤ rank x) :
    Around rank x out (middle + 1) high where
  le := hhigh
  le_length := h.le_length
  below := by
    have htake := hsorted.sublist (List.take_sublist (middle + 1) out)
    rw [List.take_succ_eq_append_getElem hmiddle] at htake ⊢
    intro a ha
    rcases List.mem_append.1 ha with ha | ha
    · exact ((List.pairwise_append.1 htake).2.2 a ha _ (List.mem_singleton_self _)).trans hx
    · obtain rfl := List.mem_singleton.1 ha
      exact hx
  above := h.above

end Halving

/-- Halving ends at the place of an item. -/
theorem Around.place (hranks : Ranks before rank p) (hout : ∀ a ∈ out, p a) (hx : p x)
    (hsorted : out.Pairwise fun a b => rank a ≤ rank b) {fuel low high : Nat}
    (h : Around rank x out low high) (hfuel : high - low < fuel) :
    Around rank x out (Filter.place before x out.toArray fuel low high)
      (Filter.place before x out.toArray fuel low high) := by
  induction fuel generalizing low high with
  | zero => exact absurd hfuel (Nat.not_lt_zero _)
  | succ fuel ih =>
    rw [Filter.place]
    split_ifs with hlt
    · have hlength : low + (high - low) / 2 < out.length := by
        have := h.le_length
        omega
      have hrank := hranks x _ hx (hout _ (List.getElem_mem hlength))
      simp only [List.getElem?_toArray, List.getElem?_eq_getElem hlength]
      split_ifs with hbefore
      · exact ih (h.lower hsorted hlength (Nat.le_add_right _ _) (hrank.1 hbefore)) (by omega)
      · refine ih (h.upper hsorted hlength (by omega) ?_) (by omega)
        exact not_lt.1 fun hlt => hbefore (hrank.2 hlt)
    · have heq : low = high := Nat.le_antisymm h.le (Nat.not_lt.1 hlt)
      exact heq ▸ h

/-! ### Putting in items -/

/-- An item goes in between those of at most its rank and those of a greater one. -/
theorem exists_insertItem_eq (hranks : Ranks before rank p) (hout : ∀ a ∈ out, p a) (hx : p x)
    (hsorted : out.Pairwise fun a b => rank a ≤ rank b) :
    ∃ front back, out = front ++ back ∧ insertItem before out x = front ++ x :: back ∧
      (∀ a ∈ front, rank a ≤ rank x) ∧ ∀ b ∈ back, rank x < rank b := by
  have h := (around_zero_length rank x out).place hranks hout hx hsorted (Nat.lt_succ_self _)
  exact ⟨_, _, (List.take_append_drop _ out).symm, rfl, h.below, h.above⟩

/-- Putting in an item preserves that a list is stably sorted. -/
theorem StablySorted.insertItem (hranks : Ranks before rank p) (hitems : ∀ a ∈ items, p a)
    (hx : p x) (h : StablySorted (· ≤ ·) rank items out) :
    StablySorted (· ≤ ·) rank (items ++ [x]) (insertItem before out x) := by
  have hout : ∀ a ∈ out, p a := fun a ha => hitems a (h.perm.subset ha)
  obtain ⟨front, back, rfl, hinsert, hfront, hback⟩ := exists_insertItem_eq hranks hout hx h.pairwise
  obtain ⟨hpfront, hpback, hacross⟩ := List.pairwise_append.1 h.pairwise
  refine ⟨(insertItem_perm before _ x).trans (h.perm.append_right _), ?_, fun r => ?_⟩
  · rw [hinsert]
    refine List.pairwise_append.2 ⟨hpfront, List.pairwise_cons.2 ⟨?_, hpback⟩, fun a ha b hb => ?_⟩
    · exact fun b hb => (hback b hb).le
    · rcases List.mem_cons.1 hb with rfl | hb
      · exact hfront a ha
      · exact hacross a ha b hb
  · rw [hinsert, List.filter_append, List.filter_append, ← h.filter_eq, List.filter_append]
    by_cases hr : rank x = r
    · -- Behind the item there is none of its rank, so it comes last among them.
      have hnone : (back.filter fun b => rank b = r) = [] := by
        refine List.filter_eq_nil_iff.2 fun b hb => ?_
        simpa [← hr] using (hback b hb).ne'
      simp [hr, hnone]
    · simp [hr]

theorem StablySorted.foldl_insertItem (hranks : Ranks before rank p) {rest : List α}
    (hitems : ∀ a ∈ items, p a) (hrest : ∀ a ∈ rest, p a)
    (h : StablySorted (· ≤ ·) rank items out) :
    StablySorted (· ≤ ·) rank (items ++ rest) (rest.foldl (Filter.insertItem before) out) := by
  induction rest generalizing items out with
  | nil => rwa [List.append_nil, List.foldl_nil]
  | cons x rest ih =>
    obtain ⟨hx, hrest⟩ := List.forall_mem_cons.1 hrest
    rw [List.foldl_cons, List.append_cons]
    refine ih (fun a ha => ?_) hrest (h.insertItem hranks hitems hx)
    rcases List.mem_append.1 ha with ha | ha
    · exact hitems a ha
    · exact List.mem_singleton.1 ha ▸ hx

/-! ### The run at the beginning -/

/-- Any two neighbours in the run that a list begins with compare the same way. -/
theorem isChain_take_runLength (before : α → α → Bool) (falling : Bool) (a : α) (rest : List α) :
    ((a :: rest).take (runLength before falling a rest + 1)).IsChain
      fun a b => before b a = falling := by
  induction rest generalizing a with
  | nil => exact .singleton a
  | cons b rest ih =>
    rw [runLength]
    split_ifs with hb
    · rw [List.take_succ_cons, List.take_succ_cons]
      exact .cons_cons (eq_of_beq hb) (ih b)
    · exact .singleton a

/-- Of items that strictly fall in rank at most one has a given rank, so that these items are the same
from behind. -/
theorem filter_reverse_of_pairwise_gt (h : items.Pairwise fun a b => rank a > rank b) (r : ρ) :
    (items.reverse.filter fun a => rank a = r) = items.filter fun a => rank a = r := by
  induction items with
  | nil => rfl
  | cons a items ih =>
    obtain ⟨ha, hitems⟩ := List.pairwise_cons.1 h
    rw [List.reverse_cons, List.filter_append, ih hitems]
    by_cases hr : rank a = r
    · have hnone : (items.filter fun b => rank b = r) = [] := by
        refine List.filter_eq_nil_iff.2 fun b hb => ?_
        simpa [← hr] using (ha b hb).ne
      simp [hr, hnone]
    · simp [hr]

/-- A run is stably sorted, turned if it falls. -/
theorem stablySorted_run (hranks : Ranks before rank p) (hitems : ∀ a ∈ items, p a)
    {falling : Bool} (h : items.IsChain fun a b => before b a = falling) :
    StablySorted (· ≤ ·) rank items (if falling then items.reverse else items) := by
  cases falling with
  | true =>
    have hfalls : items.Pairwise fun a b => rank a > rank b :=
      pairwise_of_isChain (h.imp_of_mem_imp fun a b ha hb hba =>
        (hranks b a (hitems b hb) (hitems a ha)).1 hba)
    exact ⟨List.reverse_perm items, List.pairwise_reverse.2 (hfalls.imp le_of_lt),
      filter_reverse_of_pairwise_gt hfalls⟩
  | false =>
    have hrises : items.Pairwise fun a b => rank a ≤ rank b :=
      pairwise_of_isChain (h.imp_of_mem_imp fun a b ha hb hba => not_lt.1 fun hlt =>
        Bool.false_ne_true (hba.symm.trans ((hranks b a (hitems b hb) (hitems a ha)).2 hlt)))
    exact ⟨.refl _, hrises, fun r => rfl⟩

/-- Sorting by a rank stably sorts. -/
theorem stablySorted_sortBy (hranks : Ranks before rank p) :
    ∀ {items : List α}, (∀ a ∈ items, p a) →
      StablySorted (· ≤ ·) rank items (sortBy before items)
  | [], _ => ⟨.refl _, .nil, fun _ => rfl⟩
  | [a], _ => ⟨.refl _, List.pairwise_singleton _ _, fun _ => rfl⟩
  | a :: b :: rest, hitems => by
    rw [sortBy]
    have hrun := isChain_take_runLength before (before b a) a (b :: rest)
    generalize runLength before (before b a) a (b :: rest) + 1 = n at hrun ⊢
    generalize a :: b :: rest = items at hrun hitems ⊢
    have htake : ∀ c ∈ items.take n, p c := fun c hc => hitems c (List.mem_of_mem_take hc)
    have hdrop : ∀ c ∈ items.drop n, p c := fun c hc => hitems c (List.mem_of_mem_drop hc)
    have h := (stablySorted_run hranks htake hrun).foldl_insertItem hranks htake hdrop
    rwa [List.take_append_drop] at h

end Extraction.Filter
