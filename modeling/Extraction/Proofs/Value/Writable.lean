import Extraction.Failure
import Extraction.Value.Comparison
import Mathlib.Tactic.SplitIfs

/-!
# Values that cannot be written

The only values that a report cannot be written with are moments in a zone that is a day or more
from universal time, and the lists and maps that hold one. They are also the only ones that may not
be told from other values: all others can be compared with each other.

## Main results

* `Value.eq_of_writeFault?` : why a value cannot be written.
* `Value.writeFault?_printable` : printable values can be written.
* `Value.compareFault?_eq_none` : values that can be written can be compared.
-/

namespace Extraction

namespace Value

theorem itemsWriteFault?_eq_findSome? (vs : List Value) :
    itemsWriteFault? vs = vs.findSome? writeFault? := by
  induction vs with
  | nil => rfl
  | cons v vs ih =>
    rw [itemsWriteFault?, List.findSome?_cons, ih]
    cases v.writeFault? <;> rfl

theorem entriesWriteFault?_eq_findSome? (es : Entries) :
    entriesWriteFault? es = es.findSome? fun e => e.2.writeFault? := by
  induction es with
  | nil => rfl
  | cons e es ih =>
    rw [entriesWriteFault?, List.findSome?_cons, ih]
    cases e.2.writeFault? <;> rfl

mutual

/-- A value cannot be written only because of the zone of a moment in it. -/
theorem eq_of_writeFault? {v : Value} {f : Fault} (h : v.writeFault? = some f) :
    f = .offsetTooLarge := by
  cases v with
  | moment m =>
    rw [writeFault?, Moment.writeFault?] at h
    split at h
    · split at h
      · cases h
      · exact (Option.some.inj h).symm
    · cases h
  | list vs => exact eq_of_itemsWriteFault? h
  | tuple vs => exact eq_of_itemsWriteFault? h
  | map es => exact eq_of_entriesWriteFault? h
  | _ => cases h

theorem eq_of_itemsWriteFault? {vs : List Value} {f : Fault} (h : itemsWriteFault? vs = some f) :
    f = .offsetTooLarge := by
  cases vs with
  | nil => cases h
  | cons v vs =>
    rw [itemsWriteFault?, Option.orElse_eq_or] at h
    rcases Option.or_eq_some_iff.1 h with h | ⟨-, h⟩
    · exact eq_of_writeFault? h
    · exact eq_of_itemsWriteFault? h

theorem eq_of_entriesWriteFault? {es : List (Value × Value)} {f : Fault}
    (h : entriesWriteFault? es = some f) : f = .offsetTooLarge := by
  cases es with
  | nil => cases h
  | cons e es =>
    rw [entriesWriteFault?, Option.orElse_eq_or] at h
    rcases Option.or_eq_some_iff.1 h with h | ⟨-, h⟩
    · exact eq_of_writeFault? h
    · exact eq_of_entriesWriteFault? h

end

mutual

/-- A printable value can be written. -/
theorem writeFault?_printable (v : Value) : v.printable.writeFault? = none := by
  cases v with
  | list vs => exact itemsWriteFault?_printable vs
  | tuple vs => exact itemsWriteFault?_printable vs
  | _ => rfl

theorem itemsWriteFault?_printable (vs : List Value) :
    itemsWriteFault? (printableItems vs) = none := by
  cases vs with
  | nil => rfl
  | cons v vs =>
    rw [printableItems, itemsWriteFault?, writeFault?_printable v, itemsWriteFault?_printable vs]
    rfl

end

/-! ### Values that can be compared -/

mutual

/-- Values that can be written can be compared. -/
theorem compareFault?_eq_none {a b : Value} (ha : a.writeFault? = none)
    (hb : b.writeFault? = none) : a.compareFault? b = none := by
  cases a with
  | moment m =>
    cases b with
    | moment n =>
      rw [writeFault?] at ha hb
      rw [compareFault?, Moment.compareFault?, ha, hb]
      split_ifs <;> rfl
    | _ => simp [compareFault?]
  | list as =>
    cases b with
    | list bs =>
      rw [compareFault?, itemsCompareFault?_eq_none ha hb, ite_self]
    | _ => simp [compareFault?]
  | tuple as =>
    cases b with
    | tuple bs => rw [compareFault?, itemsCompareFault?_eq_none ha hb]
    | _ => simp [compareFault?]
  | map es =>
    cases b with
    | map fs =>
      rw [compareFault?, entriesCompareFault?_eq_none ha hb, ite_self]
    | _ => simp [compareFault?]
  | _ => simp [compareFault?]

theorem itemsCompareFault?_eq_none {as bs : List Value} (ha : itemsWriteFault? as = none)
    (hb : itemsWriteFault? bs = none) : itemsCompareFault? as bs = none := by
  cases as with
  | nil => simp [itemsCompareFault?]
  | cons a as =>
    cases bs with
    | nil => simp [itemsCompareFault?]
    | cons b bs =>
      rw [itemsWriteFault?, Option.orElse_eq_or, Option.or_eq_none_iff] at ha hb
      rw [itemsCompareFault?, compareFault?_eq_none ha.1 hb.1,
        itemsCompareFault?_eq_none ha.2 hb.2, ite_self]
      rfl

theorem entriesCompareFault?_eq_none {es fs : List (Value × Value)}
    (he : entriesWriteFault? es = none) (hf : entriesWriteFault? fs = none) :
    entriesCompareFault? es fs = none := by
  cases es with
  | nil => simp [entriesCompareFault?]
  | cons e es =>
    obtain ⟨k, v⟩ := e
    rw [entriesWriteFault?, Option.orElse_eq_or, Option.or_eq_none_iff] at he
    rw [entriesCompareFault?]
    cases hfind : fs.find? fun f => k.equal f.1 with
    | none => rfl
    | some f =>
      have hmem : f ∈ fs := List.mem_of_find?_eq_some hfind
      have hwrite : f.2.writeFault? = none := by
        rw [entriesWriteFault?_eq_findSome?, List.findSome?_eq_none_iff] at hf
        exact hf f hmem
      simp only [compareFault?_eq_none he.1 hwrite, entriesCompareFault?_eq_none he.2 hf, ite_self]
      rfl

end

end Value

end Extraction
