import Extraction.Proofs.Filter.Dates
import Extraction.Proofs.Filter.Insertion
import Extraction.Proofs.Filter.Sequences
import Extraction.Proofs.Number.Comparison
import Extraction.Filter.Registry
import Mathlib.Data.String.Basic
import Mathlib.Data.Sum.Order

/-!
# The order of values

Values of all kinds have places in one order: first truth values, integers and double-precision
numbers by their exact values, then texts, then values of other kinds by their plain texts, and
missing values at the end. Sorting brings a list into this order or into the opposite one, and in
both it is stable. Not-a-number is in no order with other numbers, so that with it nothing is said
but that no item gets lost.

## Main definitions

* `Value.Rank`, `Value.rank` : the place of a value.

## Main results

* `Filter.SortKey.before_iff` : items are compared by their places.
* `Filter.stablySorted_sortItems`, `Filter.stablySorted_sortItems_descending` : sorting is stable.
* `Filter.sortItems_sortItems` : sorting again changes nothing.
* `Filter.Builtin.outcome_sort` : what the filter that sorts gives, and what it fails on.
-/

namespace Extraction

/-- The places of values: those of numbers, of texts and of values of other kinds, one after the
other, and that of missing values at the end. Texts are in the order of their characters' code
points. -/
abbrev Value.Rank :=
  WithTop (WithBot (WithTop ℚ) ⊕ₗ String ⊕ₗ String)

/-- The place of a value. -/
def Value.rank : Value → Rank
  | .bool b => WithTop.some (Sum.inlₗ (exact (if b then 1 else 0)))
  | .int n => WithTop.some (Sum.inlₗ (exact n))
  | .float x => WithTop.some (Sum.inlₗ x.value)
  | .text s => WithTop.some (Sum.inrₗ (Sum.inlₗ s))
  | .null => ⊤
  | v => WithTop.some (Sum.inrₗ (Sum.inrₗ v.written))

namespace Filter

/-- The place of the values with a key. -/
def SortKey.rank : SortKey → Value.Rank
  | .number n => WithTop.some (Sum.inlₗ n.value)
  | .text s => WithTop.some (Sum.inrₗ (Sum.inlₗ s))
  | .other s => WithTop.some (Sum.inrₗ (Sum.inrₗ s))
  | .missing => ⊤

theorem rank_sortKey (v : Value) : (sortKey v).rank = v.rank := by
  cases v with
  | bool b => cases b <;> simp [sortKey, Value.number?, SortKey.rank, Value.Number.value, Value.rank]
  | _ => rfl

theorem sortKey_ne_nan {v : Value} (hv : v ≠ .float .nan) :
    sortKey v ≠ .number (.float .nan) := by
  cases v with
  | float x => simpa [sortKey, Value.number?] using hv
  | _ => simp [sortKey, Value.number?]

/-- Keys are compared by their places. -/
theorem SortKey.before_iff {a b : SortKey} (ha : a ≠ .number (.float .nan))
    (hb : b ≠ .number (.float .nan)) : a.before b = true ↔ a.rank < b.rank := by
  cases a with
  | number m =>
    cases b with
    | number n =>
      have hm : m ≠ .float .nan := fun h => ha (congrArg _ h)
      have hn : n ≠ .float .nan := fun h => hb (congrArg _ h)
      simp [before, Value.Number.compare?_eq hm hn, rank, compare_lt_iff_lt, Sum.inlₗ]
    | _ => simp [before, group, rank, Sum.inlₗ, Sum.inrₗ]
  | text s => cases b <;> simp [before, group, rank, Sum.inlₗ, Sum.inrₗ]
  | other s => cases b <;> simp [before, group, rank, Sum.inlₗ, Sum.inrₗ]
  | missing => cases b <;> simp [before, group, rank, Sum.inlₗ, Sum.inrₗ]

theorem ranks_rank :
    Ranks (fun a b => (sortKey a).before (sortKey b)) Value.rank (· ≠ .float .nan) := by
  intro a b ha hb
  rw [SortKey.before_iff (sortKey_ne_nan ha) (sortKey_ne_nan hb), rank_sortKey, rank_sortKey]

/-! ### Sorting -/

section Items

variable {items : List Value}

theorem sortItems_perm (ascending : Bool) (items : List Value) :
    (sortItems ascending items).Perm items := by
  unfold sortItems
  split_ifs
  · exact sortBy_perm _ items
  · exact (List.reverse_perm _).trans ((sortBy_perm _ _).trans (List.reverse_perm items))

theorem stablySorted_sortItems (h : ∀ v ∈ items, v ≠ .float .nan) :
    StablySorted (· ≤ ·) Value.rank items (sortItems true items) :=
  stablySorted_sortBy ranks_rank h

theorem stablySorted_sortItems_descending (h : ∀ v ∈ items, v ≠ .float .nan) :
    StablySorted (· ≥ ·) Value.rank items (sortItems false items) :=
  (stablySorted_sortBy ranks_rank fun v hv => h v (List.mem_reverse.1 hv)).reverse

/-- Sorting again changes nothing. -/
theorem sortItems_sortItems (ascending : Bool) (h : ∀ v ∈ items, v ≠ .float .nan) :
    sortItems ascending (sortItems ascending items) = sortItems ascending items := by
  have hsorted : ∀ v ∈ sortItems ascending items, v ≠ .float .nan := fun v hv =>
    h v ((sortItems_perm ascending items).subset hv)
  cases ascending with
  | true =>
    exact (stablySorted_sortItems hsorted).unique (fun _ _ => le_antisymm)
      (stablySorted_sortItems h).self
  | false =>
    exact (stablySorted_sortItems_descending hsorted).unique (fun _ _ => ge_antisymm)
      (stablySorted_sortItems_descending h).self

end Items

/-- The arguments of the filter ask for the ascending order. -/
def Ascending : List Value → Prop
  | [] => True
  | order :: _ => order = .text "asc"

/-- Whether the arguments of the filter ask for the ascending order. -/
def ascends : List Value → Bool
  | [] => true
  | .text s :: _ => s == "asc"
  | _ => false

theorem ascends_iff (arguments : List Value) : ascends arguments = true ↔ Ascending arguments := by
  cases arguments with
  | nil => simp [ascends, Ascending]
  | cons order rest => cases order <;> simp [ascends, Ascending]

/-- Where every item has a place, sorting gives the items in the order that the arguments ask
for. -/
theorem sort_eq_ok {v : Value} {items : List Value} (hv : v = .list items ∨ v = .tuple items)
    (h : ∀ u ∈ items, ∀ f, ¬Unordered u f) (arguments : List Value) :
    sort v arguments = .ok (.list (sortItems (ascends arguments) items)) := by
  have hnone : items.findSome? sortFault? = none := List.findSome?_eq_none_iff.2 fun u hu =>
    Option.eq_none_iff_forall_ne_some.2 fun f hf => h u hu f (sortFault?_eq_some_iff.1 hf)
  rcases hv with rfl | rfl
  · simp only [sort, hnone]
    rfl
  · simp only [sort, hnone]
    rfl

/-- **The order of values.** Take any list or tuple, and no argument or one. Sorting fails exactly
if an item has no place in the order, being neither a number nor a text and having no plain text,
and then with what keeps the first such item from one. Otherwise it gives a list of the same items,
without a notice. If none of them is not-a-number, they are in order, ascending without an argument
and for the argument `asc`, and descending for any other; and items in the same place are as they
were before. -/
theorem Builtin.outcome_sort {v : Value} {items arguments : List Value}
    (hv : v = .list items ∨ v = .tuple items)
    (hcount : sort.arity.fault? arguments.length = none) :
    (∀ f, (sort.run v arguments).outcome = .error f ↔ FirstAmiss Unordered items f) ∧
      ((∀ u ∈ items, ∀ f, ¬Unordered u f) → ∃ out, sort.run v arguments = .ok (.list out) ∧
        out.Perm items ∧ ((∀ u ∈ items, u ≠ .float .nan) →
          (Ascending arguments → StablySorted (· ≤ ·) Value.rank items out) ∧
          (¬Ascending arguments → StablySorted (· ≥ ·) Value.rank items out))) := by
  have hrun : sort.run v arguments = .ofExcept (Filter.sort v arguments) :=
    run_of_fault?_eq_none hcount v
  rw [hrun]
  refine ⟨fun f => (sort_error_iff arguments).trans (onItems_iff hv), fun hplaces => ?_⟩
  rw [sort_eq_ok hv hplaces, ← ascends_iff]
  refine ⟨_, rfl, sortItems_perm _ items, fun hnan => ⟨fun h => ?_, fun h => ?_⟩⟩
  · rw [h]
    exact stablySorted_sortItems hnan
  · rw [Bool.eq_false_iff.2 h]
    exact stablySorted_sortItems_descending hnan

/-- Values of several kinds have an order, in which equal numbers stay as they are. -/
theorem Builtin.outcome_sort_mixed :
    ∃ out, sort.run (.list [.null, .int 1, .text "b", .bool true]) [.text "desc"] =
        .ok (.list out) ∧
      StablySorted (· ≥ ·) Value.rank [.null, .int 1, .text "b", .bool true] out := by
  have hcount : sort.arity.fault? [Value.text "desc"].length = none := rfl
  obtain ⟨-, hsorts⟩ :=
    outcome_sort (.inl (rfl : Value.list [.null, .int 1, .text "b", .bool true] = _)) hcount
  have hplaces : ∀ u ∈ [.null, .int 1, .text "b", .bool true], ∀ f, ¬Unordered u f := by
    simp only [← sortFault?_eq_some_iff]
    simp [sortFault?, Value.number?, Value.textFault?, Value.quoteFault?]
  obtain ⟨out, hrun, -, hordered⟩ := hsorts hplaces
  exact ⟨out, hrun, (hordered (by simp)).2 (by simp [Ascending])⟩

/-- The filter for dates reads a moment that is a day or more from universal time, and a list that
has this moment cannot be sorted. -/
theorem Builtin.outcome_sort_farMoment :
    let far : Moment := ⟨2024, 1, 15, 10, 20, 30, 0, some (.looseOffset none 90000)⟩
    date.run (.text "2024-01-15T10:20:30+25:00") [] = .ok (.moment far) ∧
      sort.run (.list [.moment far]) [] = .fail .offsetTooLarge := by
  intro far
  refine ⟨?_, rfl⟩
  rw [run_of_fault?_eq_none rfl]
  exact date_text_of_found (by decide +kernel)

end Filter

end Extraction
