import Extraction.Proofs.Filter.Failure
import Extraction.Proofs.Value.Decidable
import Extraction.Proofs.Value.Equality
import Extraction.Proofs.Value.Writable
import Mathlib.Data.List.Induction

/-!
# The first of all equal items

The filter for repeated items keeps an item if it equals none of those kept so far. Since equality
is an equivalence on values without not-a-number, an item then equals one kept so far exactly if it
equals any item before it, so that the first of each class is kept and nothing else. All comparisons
that are made of the items kept are made again when the filter is applied to them, and no others.

## Main definitions

* `Filter.FirstOfEach` : the first of each class of equal items of a list, in order.

## Main results

* `Filter.firstOfEach_distinct` : the items kept are the first of each class.
* `Filter.distinctFault?_distinct` : the items kept can be told from each other again.
* `Filter.FirstClash.exists_unwritable` : items that cannot be told apart hold a moment that cannot
  be written.
* `Filter.Builtin.outcome_unique` : what the filter makes of a list.
-/

namespace Extraction

namespace Filter

/-- The first of each class of equal items of a list, in order. -/
structure FirstOfEach (items kept : List Value) : Prop where
  /-- Nothing is added and the order is kept. -/
  sublist : kept.Sublist items
  /-- No two of them are equal. -/
  apart : kept.Pairwise fun a b => a.equal b = false ∧ b.equal a = false
  /-- Every item equals one of them. -/
  covered : ∀ v ∈ items, ∃ k ∈ kept, k.equal v = true
  /-- None of them equals an item before it. -/
  first : ∀ k ∈ kept, ∃ before after, items = before ++ k :: after ∧
    ∀ u ∈ before, u.equal k = false

theorem distinctAfter_append (kept before rest : List Value) :
    distinctAfter kept (before ++ rest) = distinctAfter (distinctAfter kept before) rest := by
  induction before generalizing kept with
  | nil => rfl
  | cons v before ih =>
    rw [List.cons_append, distinctAfter, distinctAfter]
    split_ifs <;> exact ih _

/-- A further item is kept if it equals none of those kept. -/
theorem distinct_concat (items : List Value) (v : Value) :
    distinct (items ++ [v]) =
      if (distinct items).any fun k => k.equal v then distinct items
      else distinct items ++ [v] := by
  rw [distinct, distinctAfter_append]
  rfl

theorem distinct_sublist (items : List Value) : (distinct items).Sublist items := by
  induction items using List.reverseRecOn with
  | nil => exact List.Sublist.refl _
  | append_singleton items v ih =>
    rw [distinct_concat]
    split_ifs
    · exact ih.trans (List.sublist_append_left _ _)
    · exact ih.append (List.Sublist.refl _)

section Regular

variable {items kept : List Value} {v : Value}

/-- A further item that equals one of the first of each class belongs to its class. -/
theorem FirstOfEach.concat_of_equal (h : FirstOfEach items kept)
    (hv : ∃ k ∈ kept, k.equal v = true) : FirstOfEach (items ++ [v]) kept where
  sublist := h.sublist.trans (List.sublist_append_left _ _)
  apart := h.apart
  covered u hu := by
    rcases List.mem_append.1 hu with hu | hu
    · exact h.covered u hu
    · rwa [List.mem_singleton.1 hu]
  first k hk := by
    obtain ⟨before, after, rfl, hbefore⟩ := h.first k hk
    exact ⟨before, after ++ [v], by simp, hbefore⟩

/-- A further item that equals none of the first of each class is the first of a new one. -/
theorem FirstOfEach.concat_of_apart (h : FirstOfEach items kept)
    (hitems : ∀ u ∈ items, u.Regular) (hregular : v.Regular)
    (hv : ∀ k ∈ kept, k.equal v = false) : FirstOfEach (items ++ [v]) (kept ++ [v]) where
  sublist := h.sublist.append (List.Sublist.refl _)
  apart := by
    refine List.pairwise_append.2 ⟨h.apart, List.pairwise_singleton _ _, fun k hk u hu => ?_⟩
    obtain rfl := List.mem_singleton.1 hu
    have hkregular : k.Regular := hitems k (h.sublist.subset hk)
    exact ⟨hv k hk, hregular.equal_comm hkregular ▸ hv k hk⟩
  covered u hu := by
    rcases List.mem_append.1 hu with hu | hu
    · obtain ⟨k, hk, hku⟩ := h.covered u hu
      exact ⟨k, List.mem_append_left _ hk, hku⟩
    · obtain rfl := List.mem_singleton.1 hu
      exact ⟨u, List.mem_append_right _ hu, hregular.equal_self⟩
  first k hk := by
    rcases List.mem_append.1 hk with hk | hk
    · obtain ⟨before, after, rfl, hbefore⟩ := h.first k hk
      exact ⟨before, after ++ [v], by simp, hbefore⟩
    · obtain rfl := List.mem_singleton.1 hk
      refine ⟨items, [], rfl, fun u hu => ?_⟩
      -- An equal item before it would belong to the class of one that is kept.
      by_contra huv
      obtain ⟨j, hj, hju⟩ := h.covered u hu
      have hjv := (hitems j (h.sublist.subset hj)).equal_trans (hitems u hu) hregular hju
        (by simpa using huv)
      rw [hv j hj] at hjv
      cases hjv

/-- The items kept are the first of each class. -/
theorem firstOfEach_distinct (h : ∀ u ∈ items, u.Regular) :
    FirstOfEach items (distinct items) := by
  induction items using List.reverseRecOn with
  | nil =>
    exact ⟨List.Sublist.refl _, List.Pairwise.nil, by simp, by simp [distinct, distinctAfter]⟩
  | append_singleton items v ih =>
    simp only [List.mem_append, List.mem_singleton, or_imp, forall_and, forall_eq] at h
    rw [distinct_concat]
    split_ifs with hv
    · exact (ih h.1).concat_of_equal (List.any_eq_true.1 hv)
    · exact (ih h.1).concat_of_apart h.1 h.2 (by simpa using hv)

/-- Items of which no two are equal are all kept. -/
theorem distinct_of_apart (h : kept.Pairwise fun a b => a.equal b = false) :
    distinct kept = kept := by
  induction kept using List.reverseRecOn with
  | nil => rfl
  | append_singleton kept v ih =>
    obtain ⟨hkept, -, hv⟩ := List.pairwise_append.1 h
    rw [distinct_concat, ih hkept, if_neg]
    simpa using hv

theorem FirstOfEach.distinct_eq (h : FirstOfEach items kept) : distinct kept = kept :=
  distinct_of_apart (h.apart.imp And.left)

/-- If the items kept can be told from each other once, they can be told from each other again. -/
theorem distinctFault?_distinct (h : ∀ u ∈ items, u.Regular)
    (hfault : distinctFault? [] items = none) : distinctFault? [] (distinct items) = none := by
  induction items using List.reverseRecOn with
  | nil => rfl
  | append_singleton items v ih =>
    simp only [List.mem_append, List.mem_singleton, or_imp, forall_and, forall_eq] at h
    rw [distinctFault?_append] at hfault
    rw [Option.orElse_eq_or, Option.or_eq_none_iff] at hfault
    obtain ⟨hitems, hv⟩ := hfault
    rw [distinct_concat]
    split_ifs
    · exact ih h.1 hitems
    · have hsame : distinctAfter [] (distinct items) = distinct items :=
        (firstOfEach_distinct h.1).distinct_eq
      rw [distinctFault?_append, ih h.1 hitems, hsame]
      exact hv

end Regular

/-! ### Items that cannot be told apart -/

/-- Items that cannot be told apart hold a moment that cannot be written. -/
theorem FirstClash.exists_unwritable {items : List Value} {f : Fault} (h : FirstClash items f) :
    ∃ u ∈ items, u.writeFault? ≠ none := by
  obtain ⟨before, v, after, rfl, ⟨passed, k, rest, hkept, hclash, -⟩, -⟩ := h
  by_contra hall
  simp only [not_exists, not_and, not_not] at hall
  have hk : k ∈ before := (distinct_sublist before).subset (hkept ▸ by simp)
  have hnone := Value.compareFault?_eq_none (hall k (by simp [hk])) (hall v (by simp))
  rw [hclash] at hnone
  cases hnone

/-- **The first of all equal items.** Take any list or tuple in which nothing holds not-a-number at
any depth. The filter gives a list of the first of each class of equal items, in order, and gives
the same list again for that list, unless it fails. It fails exactly if an item cannot be told from
one before it, where the equality of values itself has no answer, and in that case one of the items
holds a moment in a zone that is a day or more from universal time. -/
theorem Builtin.outcome_unique (v : Value) (items : List Value)
    (hv : v = .list items ∨ v = .tuple items) (hregular : ∀ u ∈ items, u.Regular) :
    (∃ kept, (Builtin.unique.run v []).outcome = .ok (.list kept) ∧ FirstOfEach items kept ∧
        (Builtin.unique.run (.list kept) []).outcome = .ok (.list kept) ∧
        ∀ f, ¬FirstClash items f) ∨
      ∃ f, (Builtin.unique.run v []).outcome = .error f ∧ FirstClash items f ∧
        ∃ u ∈ items, u.writeFault? ≠ none := by
  have hrun (u : Value) : (Builtin.unique.run u []).outcome = Filter.unique u := by
    rw [run_of_fault?_eq_none rfl]
    rfl
  simp only [hrun]
  cases hfault : distinctFault? [] items with
  | some f =>
    have hfails : Filter.unique v = .error f := by
      rcases hv with rfl | rfl <;> rw [Filter.unique, hfault]
    have hclash : FirstClash items f := distinctFault?_eq_some_iff.1 hfault
    exact .inr ⟨f, hfails, hclash, hclash.exists_unwritable⟩
  | none =>
    have hreturns : Filter.unique v = .ok (.list (distinct items)) := by
      rcases hv with rfl | rfl <;> rw [Filter.unique, hfault]
    have hfirst : FirstOfEach items (distinct items) := firstOfEach_distinct hregular
    refine .inl ⟨distinct items, hreturns, hfirst, ?_, fun f hclash => ?_⟩
    · rw [Filter.unique, distinctFault?_distinct hregular hfault, hfirst.distinct_eq]
    · rw [distinctFault?_eq_some_iff.2 hclash] at hfault
      cases hfault

/-- A truth value and a number, a list and a tuple, and two maps with their entries in another
order. -/
theorem Builtin.outcome_unique_mixed :
    let row (x y : Value) : Value := .map [(.text "a", x), (.text "b", y)]
    let swapped (x y : Value) : Value := .map [(.text "b", y), (.text "a", x)]
    let one : Value := .float (Binary64.ofInt 1)
    let items : List Value := [.int 3, .bool true, one, .list [one], .tuple [.int 1],
      .list [.int 1], row one .null, swapped (.bool true) .null, .int 3]
    let kept : List Value := [.int 3, .bool true, .list [one], .tuple [.int 1], row one .null]
    (∀ u ∈ items, u.Regular) ∧ FirstOfEach items kept ∧
      (Builtin.unique.run (.tuple items) []).outcome = .ok (.list kept) ∧
      (Builtin.unique.run (.list kept) []).outcome = .ok (.list kept) := by
  intro row swapped one items kept
  have hone : one.Regular := .float (by decide +kernel)
  have hmap {k l : String} (hkl : (k == l) = false) {x y : Value} (hx : x.Regular)
      (hy : y.Regular) : (Value.map [(.text k, x), (.text l, y)]).Regular := by
    have hk := Value.Regular.text k
    have hl := Value.Regular.text l
    refine .map ?_ ?_ ?_
    · simp [hk, hl]
    · simp [hx, hy]
    · simpa [Value.equal] using hkl
  have hregular : ∀ u ∈ items, u.Regular := by
    simp only [items, List.forall_mem_cons]
    refine ⟨.int 3, .bool true, hone, .list ?_, .tuple ?_, .list ?_, hmap rfl hone .null,
      hmap rfl .null (.bool true), .int 3, by simp⟩
    · exact List.forall_mem_singleton.2 hone
    · exact List.forall_mem_singleton.2 (.int 1)
    · exact List.forall_mem_singleton.2 (.int 1)
  have hkept : (Builtin.unique.run (.tuple items) []).outcome = .ok (.list kept) := by
    decide +kernel
  obtain ⟨found, hfound, hfirst, hagain, -⟩ | ⟨f, hf, -⟩ :=
    Builtin.outcome_unique (.tuple items) items (.inr rfl) hregular
  · obtain rfl := Value.list.inj (Except.ok.inj (hfound.symm.trans hkept))
    exact ⟨hregular, hfirst, hkept, hagain⟩
  · rw [hkept] at hf
    cases hf

/-- The filter for dates reads two moments that are a day or more from universal time. They hold no
not-a-number, and a list of the two has no first of each class, since they cannot be compared. -/
theorem Builtin.outcome_unique_farMoments :
    let far (offset : Int) : Moment := ⟨2024, 1, 15, 10, 20, 30, 0, some (.looseOffset none offset)⟩
    let items : List Value := [.moment (far 90000), .moment (far 93600)]
    date.run (.text "2024-01-15T10:20:30+25:00") [] = .ok (.moment (far 90000)) ∧
      date.run (.text "2024-01-15T10:20:30+26:00") [] = .ok (.moment (far 93600)) ∧
      (∀ u ∈ items, u.Regular) ∧ unique.run (.list items) [] = .fail .offsetTooLarge := by
  intro far items
  refine ⟨?first, ?second, ?regular, rfl⟩
  case first =>
    rw [run_of_fault?_eq_none rfl]
    exact date_text_of_found (by decide +kernel)
  case second =>
    rw [run_of_fault?_eq_none rfl]
    exact date_text_of_found (by decide +kernel)
  case regular =>
    simp only [items, List.forall_mem_cons]
    exact ⟨.moment _, .moment _, by simp⟩

end Filter

end Extraction
