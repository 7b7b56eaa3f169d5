import Extraction.Json.Reader
import Extraction.Proofs.Evaluation.Result
import Extraction.Rule.Shape
import Mathlib.Tactic.SplitIfs

/-!
# The parts of a rule

A rule holds rules: the items of its lists and the values of its maps, at any depth. A rule of which
no part is a function is data, and so is every rule that is written as JSON.

## Main definitions

* `Rule.parts` : a value and the rules that it holds.
* `Rule.IsData` : no part of a rule is a function.

## Main results

* `Rule.isData_of_read` : a rule that is written as JSON is data.
-/

namespace Extraction.Rule

mutual

/-- A value and the rules that it holds at any depth. -/
def parts : Value → List Value
  | .list items => .list items :: partsOfItems items
  | .tuple items => .tuple items :: partsOfItems items
  | .map entries => .map entries :: partsOfEntries entries
  | v => [v]

/-- The parts of the items of a list. -/
def partsOfItems : List Value → List Value
  | [] => []
  | v :: rest => parts v ++ partsOfItems rest

/-- The parts of the values of a map. -/
def partsOfEntries : List (Value × Value) → List Value
  | [] => []
  | (_, v) :: rest => parts v ++ partsOfEntries rest

end

/-- No part of a rule is a function. -/
def IsData (rule : Value) : Prop :=
  ∀ v ∈ parts rule, v.isFunction = false

instance : DecidablePred IsData := fun rule =>
  inferInstanceAs (Decidable (∀ v ∈ parts rule, v.isFunction = false))

theorem mem_parts_self (v : Value) : v ∈ parts v := by
  cases v <;> simp [parts]

theorem isData_list_iff {items : List Value} :
    IsData (.list items) ↔ ∀ v ∈ partsOfItems items, v.isFunction = false := by
  simp [IsData, parts, Value.isFunction]

theorem isData_map_iff {entries : Entries} :
    IsData (.map entries) ↔ ∀ v ∈ partsOfEntries entries, v.isFunction = false := by
  simp [IsData, parts, Value.isFunction]

theorem isData_items_cons_iff {v : Value} {vs : List Value} :
    IsData (.list (v :: vs)) ↔ IsData v ∧ IsData (.list vs) := by
  rw [isData_list_iff, isData_list_iff, partsOfItems, List.forall_mem_append, IsData]

theorem isData_entries_cons_iff {key v : Value} {es : Entries} :
    IsData (.map ((key, v) :: es)) ↔ IsData v ∧ IsData (.map es) := by
  rw [isData_map_iff, isData_map_iff, partsOfEntries, List.forall_mem_append, IsData]

theorem isData_insert {es : Entries} {key v : Value} (hes : IsData (.map es)) (hv : IsData v) :
    IsData (.map (es.insert key v)) := by
  induction es with
  | nil => exact isData_entries_cons_iff.2 ⟨hv, hes⟩
  | cons e es ih =>
    obtain ⟨k, w⟩ := e
    obtain ⟨hw, hes⟩ := isData_entries_cons_iff.1 hes
    rw [Entries.insert]
    split_ifs
    · exact isData_entries_cons_iff.2 ⟨hv, hes⟩
    · exact isData_entries_cons_iff.2 ⟨hw, ih hes⟩

theorem isData_union {es extra : Entries} (hes : IsData (.map es)) (hextra : IsData (.map extra)) :
    IsData (.map (es.union extra)) := by
  induction extra generalizing es with
  | nil => exact hes
  | cons e extra ih =>
    obtain ⟨hv, hextra⟩ := isData_entries_cons_iff.1 hextra
    exact ih (isData_insert hes hv) hextra

/-! ### Rules that are written as JSON -/

open Json

theorem isData_of_readName {s rest : List Char} {v : Value} (h : readName? s = some (v, rest)) :
    IsData v := by
  have hnames : ∀ entry ∈ Json.names, IsData entry.2 := by decide
  obtain ⟨entry, hentry, hfound⟩ := List.exists_of_findSome?_eq_some h
  obtain ⟨name, w⟩ := entry
  simp only at hfound
  split_ifs at hfound
  obtain ⟨rfl, -⟩ := Prod.mk.inj (Option.some.inj hfound)
  exact hnames (name, w) hentry

theorem isData_of_readNumber {s rest : List Char} {v : Value} (h : readNumber s = .ok (v, rest)) :
    IsData v := by
  unfold readNumber at h
  dsimp only at h
  split_ifs at h
  · split at h
    · obtain ⟨rfl, -⟩ := Prod.mk.inj (Except.ok.inj h)
      simp [IsData, parts, Value.isFunction]
    · cases h
  · obtain ⟨rfl, -⟩ := Prod.mk.inj (Except.ok.inj h)
    simp [IsData, parts, Value.isFunction]

/-- What is read with some fuel is data. -/
structure ReadsData (fuel : Nat) : Prop where
  value : ∀ {s rest v}, readValue fuel s = .ok (v, rest) → IsData v
  items : ∀ {s rest vs}, readItems fuel s = .ok (vs, rest) → IsData (.list vs)
  members : ∀ {s rest es}, readMembers fuel s = .ok (es, rest) → IsData (.map es)

variable {fuel : Nat} {s rest : List Char}

theorem isData_nil : IsData (.list []) := by
  decide

theorem isData_map_nil : IsData (.map []) := by
  decide

theorem ReadsData.value_succ (ih : ReadsData fuel) {v : Value}
    (h : readValue (fuel + 1) s = .ok (v, rest)) : IsData v := by
  cases s with
  | nil => cases h
  | cons c s =>
    rw [readValue] at h
    split_ifs at h
    case pos =>
      obtain ⟨⟨t, after⟩, -, hv⟩ := Result.map_eq_ok_iff.1 h
      obtain ⟨rfl, -⟩ := Prod.mk.inj hv
      simp [IsData, parts, Value.isFunction]
    case pos =>
      split at h
      · obtain ⟨rfl, -⟩ := Prod.mk.inj (Except.ok.inj h)
        exact isData_nil
      · obtain ⟨⟨items, after⟩, hitems, hv⟩ := Result.map_eq_ok_iff.1 h
        obtain ⟨rfl, -⟩ := Prod.mk.inj hv
        exact ih.items hitems
    case pos =>
      split at h
      · obtain ⟨rfl, -⟩ := Prod.mk.inj (Except.ok.inj h)
        exact isData_map_nil
      · obtain ⟨⟨es, after⟩, hes, hv⟩ := Result.map_eq_ok_iff.1 h
        obtain ⟨rfl, -⟩ := Prod.mk.inj hv
        exact isData_union isData_map_nil (ih.members hes)
    case neg =>
      split at h
      · rename_i found hname
        obtain rfl := Except.ok.inj h
        exact isData_of_readName hname
      · exact isData_of_readNumber h

theorem ReadsData.items_succ (ih : ReadsData fuel) {vs : List Value}
    (h : readItems (fuel + 1) s = .ok (vs, rest)) : IsData (.list vs) := by
  rw [readItems] at h
  obtain ⟨⟨v, after⟩, hv, h⟩ := Result.bind_eq_ok_iff.1 h
  dsimp only at h
  split at h
  · obtain ⟨⟨more, after'⟩, hmore, h⟩ := Result.bind_eq_ok_iff.1 h
    obtain ⟨rfl, -⟩ := Prod.mk.inj (Except.ok.inj h)
    exact isData_items_cons_iff.2 ⟨ih.value hv, ih.items hmore⟩
  · obtain ⟨rfl, -⟩ := Prod.mk.inj (Except.ok.inj h)
    exact isData_items_cons_iff.2 ⟨ih.value hv, isData_nil⟩
  · cases h

theorem ReadsData.members_succ (ih : ReadsData fuel) {es : Entries}
    (h : readMembers (fuel + 1) s = .ok (es, rest)) : IsData (.map es) := by
  rw [readMembers.eq_def] at h
  split at h
  · rename_i fuel' s hfuel
    obtain rfl : fuel = fuel' := Nat.succ.inj hfuel
    obtain ⟨⟨key, after⟩, -, h⟩ := Result.bind_eq_ok_iff.1 h
    dsimp only at h
    split at h
    · obtain ⟨⟨v, after'⟩, hv, h⟩ := Result.bind_eq_ok_iff.1 h
      dsimp only at h
      split at h
      · obtain ⟨⟨more, after''⟩, hmore, h⟩ := Result.bind_eq_ok_iff.1 h
        obtain ⟨rfl, -⟩ := Prod.mk.inj (Except.ok.inj h)
        exact isData_entries_cons_iff.2 ⟨ih.value hv, ih.members hmore⟩
      · obtain ⟨rfl, -⟩ := Prod.mk.inj (Except.ok.inj h)
        exact isData_entries_cons_iff.2 ⟨ih.value hv, isData_map_nil⟩
      · cases h
    · cases h
  · cases h

theorem readsData (fuel : Nat) : ReadsData fuel := by
  induction fuel with
  | zero =>
    constructor
    · intro s rest v h
      cases h
    · intro s rest vs h
      cases h
    · intro s rest es h
      cases h
  | succ fuel ih =>
    constructor
    · exact ih.value_succ
    · exact ih.items_succ
    · exact ih.members_succ

/-- A rule that is written as JSON is data. -/
theorem isData_of_read {rule : Value} (h : Json.read s = .ok rule) : IsData rule := by
  obtain ⟨⟨v, rest⟩, hv, h⟩ := Result.bind_eq_ok_iff.1 h
  dsimp only at h
  split at h
  · split at h
    · obtain rfl := Except.ok.inj h
      exact (readsData _).value hv
    · cases h
  · cases h

end Extraction.Rule
