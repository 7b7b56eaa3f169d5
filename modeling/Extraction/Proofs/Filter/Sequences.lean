import Extraction.Filter.Sequences
import Extraction.Filter.Strings
import Extraction.Proofs.Value.Unwritten
import Mathlib.Tactic.SplitIfs

/-!
# What the filters of lists fail on

Joining and sorting work on the plain texts of items, and fail with the first item that has none.
Dropping repeated items compares each item with those kept before it, in turn, as long as none
equals it. A comparison that cannot be decided ends it.

## Main definitions

* `Filter.FirstAmiss` : the first of several items that something is wrong with.
* `Filter.Unordered` : a value has no place in an order.
* `Filter.Clashes`, `Filter.FirstClash` : an item cannot be told from one before it.

## Main results

* `Filter.join_nil_error_iff`, `Filter.sort_error_iff`, `Filter.unique_error_iff` : when the
  three filters fail.
-/

namespace Extraction.Filter

/-- The first of several items that something is wrong with, and what that is. -/
def FirstAmiss (wrong : Value → Fault → Prop) (items : List Value) (f : Fault) : Prop :=
  ∃ before v after, items = before ++ v :: after ∧ wrong v f ∧ ∀ u ∈ before, ∀ g, ¬wrong u g

section Items

variable {items : List Value} {f : Fault}

theorem findSome?_eq_some_iff {wrong : Value → Fault → Prop} {fault? : Value → Option Fault}
    (h : ∀ v g, fault? v = some g ↔ wrong v g) :
    items.findSome? fault? = some f ↔ FirstAmiss wrong items f := by
  simp only [List.findSome?_eq_some_iff, FirstAmiss, ← h, Option.eq_none_iff_forall_ne_some, ne_eq]

/-- A traversal that may fail fails with the fault of the first item that has one. -/
theorem mapM_error_iff {α : Type} {read : Value → Except Fault α} {fault? : Value → Option Fault}
    (h : ∀ v g, read v = .error g ↔ fault? v = some g) :
    items.mapM read = .error f ↔ items.findSome? fault? = some f := by
  induction items with
  | nil => simp [pure, Except.pure]
  | cons v rest ih =>
    rw [List.mapM_cons, List.findSome?_cons]
    cases hv : read v with
    | error g =>
      rw [(h v g).1 hv]
      simp [bind, Except.bind]
    | ok a =>
      have hnone : fault? v = none :=
        Option.eq_none_iff_forall_ne_some.2 fun g hg => by simp [(h v g).2 hg] at hv
      rw [hnone, ← ih]
      cases rest.mapM read <;> simp [bind, Except.bind, pure, Except.pure]

theorem joinedItem_error_iff {v : Value} : joinedItem v = .error f ↔ v.textFault? = some f := by
  rw [Value.textFault?_eq_some_iff]
  cases v with
  | null =>
    rw [← Value.textFault?_eq_some_iff]
    simp [joinedItem, Value.textFault?, Value.quoteFault?]
  | _ =>
    rw [joinedItem, Value.map_plainText_error_iff]
    simp

theorem joinItems_error_iff {sep : List Char} :
    joinItems sep items = .error f ↔ FirstAmiss Value.Unwritten items f := by
  rw [← findSome?_eq_some_iff fun v g => Value.textFault?_eq_some_iff,
    ← mapM_error_iff fun v g => joinedItem_error_iff, joinItems]
  cases items.mapM joinedItem <;> simp [bind, Except.bind, pure, Except.pure]

/-- A value has no place in an order: it is neither a number nor a text, and has no plain text. -/
def Unordered (v : Value) (f : Fault) : Prop :=
  v.number? = none ∧ v.Unwritten f

/-- Something is the case with the items of a value that is a list or a tuple. -/
def OnItems (p : List Value → Prop) (v : Value) : Prop :=
  ∃ items, (v = .list items ∨ v = .tuple items) ∧ p items

theorem onItems_iff {p : List Value → Prop} {v : Value} (hv : v = .list items ∨ v = .tuple items) :
    OnItems p v ↔ p items := by
  rcases hv with rfl | rfl <;> simp [OnItems]

theorem join_nil_error_iff {v : Value} :
    join v [] = .error f ↔ OnItems (FirstAmiss Value.Unwritten · f) v := by
  cases v with
  | list items | tuple items => exact joinItems_error_iff.trans (by simp [OnItems])
  | _ => simp [join, OnItems]

theorem sortFault?_eq_some_iff {v : Value} : sortFault? v = some f ↔ Unordered v f := by
  rw [sortFault?, Unordered, ← Value.textFault?_eq_some_iff]
  cases v.number? <;> simp

/-- Sorting fails for the first item that has no place, whatever order is asked for. -/
theorem sort_error_iff {v : Value} (arguments : List Value) :
    sort v arguments = .error f ↔ OnItems (FirstAmiss Unordered · f) v := by
  simp only [← findSome?_eq_some_iff fun v g => sortFault?_eq_some_iff]
  cases v with
  | list items | tuple items =>
    unfold sort
    cases hfault : items.findSome? sortFault? <;> simp [OnItems, hfault]
  | _ => simp [sort, OnItems]

end Items

/-! ### Distinct items -/

/-- An item cannot be told from one of the items kept of those before it: no kept item before that
one equals it. -/
def Clashes (before : List Value) (v : Value) (f : Fault) : Prop :=
  ∃ passed k rest, distinct before = passed ++ k :: rest ∧ k.compareFault? v = some f ∧
    ∀ u ∈ passed, u.compareFault? v = none ∧ u.equal v = false

/-- The first of several items that cannot be told from one before it, and why. -/
def FirstClash (items : List Value) (f : Fault) : Prop :=
  ∃ before v after, items = before ++ v :: after ∧ Clashes before v f ∧
    ∀ b u a, before = b ++ u :: a → ∀ g, ¬Clashes b u g

/-- What a comparison with a kept item ends the search for an equal one with, if it ends it. -/
def seekEnd? (v k : Value) : Option (Option Fault) :=
  ((k.compareFault? v).map some).or (if k.equal v then some none else none)

theorem seekEnd?_eq_some_iff {v k : Value} {f : Fault} :
    seekEnd? v k = some (some f) ↔ k.compareFault? v = some f := by
  cases hk : k.compareFault? v <;> simp [seekEnd?, hk]

theorem seekEnd?_eq_none_iff {v k : Value} :
    seekEnd? v k = none ↔ k.compareFault? v = none ∧ k.equal v = false := by
  cases hk : k.compareFault? v <;> simp [seekEnd?, hk]

theorem seekFault?_eq_findSome? (v : Value) (kept : List Value) :
    seekFault? v kept = (kept.findSome? (seekEnd? v)).join := by
  induction kept with
  | nil => rfl
  | cons k kept ih =>
    rw [seekFault?, List.findSome?_cons, ih]
    cases hk : k.compareFault? v <;> cases he : k.equal v <;> simp [seekEnd?, hk, he]

theorem clashes_iff {before : List Value} {v : Value} {f : Fault} :
    Clashes before v f ↔ seekFault? v (distinct before) = some f := by
  simp only [seekFault?_eq_findSome?, Option.join_eq_some_iff, List.findSome?_eq_some_iff,
    seekEnd?_eq_some_iff, seekEnd?_eq_none_iff, Clashes]

/-- Items are gone through one after the other. -/
theorem distinctFault?_append (kept before rest : List Value) :
    distinctFault? kept (before ++ rest) = (distinctFault? kept before).orElse fun _ =>
      distinctFault? (distinctAfter kept before) rest := by
  induction before generalizing kept with
  | nil => rfl
  | cons v before ih =>
    rw [List.cons_append, distinctFault?, distinctFault?, distinctAfter]
    cases seekFault? v kept with
    | some f => rfl
    | none => split_ifs <;> exact ih _

/-- A fault is that of an item that clashes, and there is none with the items before it. -/
theorem exists_clashes {kept items : List Value} {f : Fault}
    (h : distinctFault? kept items = some f) :
    ∃ before v after, items = before ++ v :: after ∧ distinctFault? kept before = none ∧
      seekFault? v (distinctAfter kept before) = some f := by
  induction items generalizing kept with
  | nil => cases h
  | cons v items ih =>
    rw [distinctFault?] at h
    cases hseek : seekFault? v kept with
    | some g =>
      rw [hseek] at h
      exact ⟨[], v, items, rfl, rfl, hseek.trans h⟩
    | none =>
      rw [hseek] at h
      obtain ⟨before, u, after, rfl, hnone, hu⟩ := ih h
      refine ⟨v :: before, u, after, rfl, ?_, ?_⟩
      · rw [distinctFault?, hseek]
        exact hnone
      · rw [distinctAfter, ← apply_ite (distinctAfter · before)]
        exact hu

/-- It cannot be told which of several items are distinct exactly if one clashes. -/
theorem distinctFault?_eq_some_iff {items : List Value} {f : Fault} :
    distinctFault? [] items = some f ↔ FirstClash items f := by
  constructor
  · intro h
    obtain ⟨before, v, after, rfl, hnone, hv⟩ := exists_clashes h
    refine ⟨before, v, after, rfl, clashes_iff.2 hv, ?_⟩
    rintro b u a rfl g hg
    rw [distinctFault?_append, distinctFault?] at hnone
    rw [clashes_iff, distinct] at hg
    simp [hg] at hnone
  · rintro ⟨before, v, after, rfl, hv, hnone⟩
    rw [clashes_iff, distinct] at hv
    rw [distinctFault?_append, distinctFault?, hv]
    cases hbefore : distinctFault? [] before with
    | none => rfl
    | some g =>
      obtain ⟨b, u, a, rfl, -, hu⟩ := exists_clashes hbefore
      exact absurd (clashes_iff.2 hu) (hnone b u a rfl g)

theorem unique_error_iff {v : Value} {f : Fault} :
    unique v = .error f ↔ OnItems (FirstClash · f) v := by
  simp only [← distinctFault?_eq_some_iff]
  cases v with
  | list items | tuple items =>
    rw [unique]
    cases hfault : distinctFault? [] items <;> simp [OnItems, hfault]
  | _ => simp [unique, OnItems]

end Extraction.Filter
