import Extraction.Value.Plain
import Mathlib.Tactic.SplitIfs

/-!
# Values without a plain text

An integer that has more digits than are written keeps every value that cites it from having a plain
text. The only other values without one are moments whose zone is a day or more from universal time,
and those only by themselves: as parts of other values moments are cited, and citing them always
works.

## Main definitions

* `Value.parts` : the values that a value is made of.
* `Value.CitesLong` : an integer of too many digits is cited with a value.
* `Value.Unwritten` : why a value has no plain text.

## Main results

* `Integer.writeFault?_eq_some_iff` : the integers that are not written.
* `Value.textFault?_eq_some_iff` : the values without a plain text.
-/

namespace Extraction

theorem Decimal.digitCount_le_iff {n k : Nat} (hk : 0 < k) : digitCount n ≤ k ↔ n < tenTo k :=
  Nat.length_toDigits_le_iff (show 1 < 10 by decide) hk

/-- An integer is not written exactly if it has more digits than are written. -/
theorem Integer.writeFault?_eq_some_iff {n : Int} {f : Fault} :
    writeFault? n = some f ↔ f = .integerNotWritten ∧ tenTo maxDigits ≤ n.natAbs := by
  have hdigits : Decimal.digitCount n.natAbs > maxDigits ↔ tenTo maxDigits ≤ n.natAbs := by
    rw [gt_iff_lt, ← Nat.not_le, Decimal.digitCount_le_iff (by decide), Nat.not_lt]
  unfold writeFault?
  split_ifs with h
  · rw [Option.some.injEq, eq_comm, and_iff_left (hdigits.1 h)]
  · exact iff_of_false (by simp) fun hlong => h (hdigits.2 hlong.2)

namespace Value

/-- The values that a value is made of. -/
def parts : Value → List Value
  | .list items | .tuple items | .set items => items
  | .map entries => entries.flatMap fun e => [e.1, e.2]
  | _ => []

/-- An integer of more digits than are written is cited with a value: it is the value, or is cited
with a part of the value. -/
inductive CitesLong : Value → Prop
  /-- The integer itself. -/
  | int {n : Int} : tenTo Integer.maxDigits ≤ n.natAbs → CitesLong (.int n)
  /-- A part of the value. -/
  | part {v w : Value} : w ∈ v.parts → CitesLong w → CitesLong v

theorem citesLong_int_iff {n : Int} :
    (Value.int n).CitesLong ↔ tenTo Integer.maxDigits ≤ n.natAbs := by
  refine ⟨fun h => ?_, .int⟩
  cases h with
  | int h => exact h
  | part hw h => cases hw

theorem citesLong_iff_of_parts {v : Value} (hv : ∀ n, v ≠ .int n) :
    v.CitesLong ↔ ∃ w ∈ v.parts, w.CitesLong := by
  refine ⟨fun h => ?_, fun ⟨w, hw, h⟩ => .part hw h⟩
  cases h with
  | int h => exact absurd rfl (hv _)
  | part hw h => exact ⟨_, hw, h⟩

/-- A cause that comes from one of two places. -/
theorem orElse_eq_some_iff {o p : Option Fault} {x f : Fault} {P Q : Prop}
    (ho : ∀ f, o = some f ↔ f = x ∧ P) (hp : ∀ f, p = some f ↔ f = x ∧ Q) :
    (o.orElse fun _ => p) = some f ↔ f = x ∧ (P ∨ Q) := by
  cases o with
  | none =>
    have hP : ¬P := fun h => by cases (ho x).2 ⟨rfl, h⟩
    rw [or_iff_right hP]
    exact hp f
  | some g =>
    obtain ⟨rfl, hP⟩ := (ho g).1 rfl
    rw [and_iff_left (.inl hP), eq_comm]
    exact Option.some_inj

mutual

/-- A value cannot be cited exactly if an integer that is not written is cited with it. -/
theorem quoteFault?_eq_some_iff (v : Value) (f : Fault) :
    v.quoteFault? = some f ↔ f = .integerNotWritten ∧ v.CitesLong := by
  cases v with
  | int n => rw [quoteFault?, Integer.writeFault?_eq_some_iff, citesLong_int_iff]
  | list items | tuple items | set items =>
    rw [quoteFault?, itemsQuoteFault?_eq_some_iff, citesLong_iff_of_parts (by simp), parts]
  | map entries =>
    rw [quoteFault?, entriesQuoteFault?_eq_some_iff, citesLong_iff_of_parts (by simp), parts]
  | _ =>
    rw [citesLong_iff_of_parts (by simp)]
    simp [quoteFault?, parts]

theorem itemsQuoteFault?_eq_some_iff (items : List Value) (f : Fault) :
    itemsQuoteFault? items = some f ↔ f = .integerNotWritten ∧ ∃ v ∈ items, v.CitesLong := by
  cases items with
  | nil => simp [itemsQuoteFault?]
  | cons v rest =>
    rw [itemsQuoteFault?, orElse_eq_some_iff (quoteFault?_eq_some_iff v)
      (itemsQuoteFault?_eq_some_iff rest)]
    simp

theorem entriesQuoteFault?_eq_some_iff (entries : List (Value × Value)) (f : Fault) :
    entriesQuoteFault? entries = some f ↔
      f = .integerNotWritten ∧ ∃ w ∈ entries.flatMap fun e => [e.1, e.2], w.CitesLong := by
  cases entries with
  | nil => simp [entriesQuoteFault?]
  | cons e rest =>
    obtain ⟨k, v⟩ := e
    rw [entriesQuoteFault?, orElse_eq_some_iff (quoteFault?_eq_some_iff k) fun f =>
      orElse_eq_some_iff (quoteFault?_eq_some_iff v) (entriesQuoteFault?_eq_some_iff rest)]
    simp

end

/-- Why a value has no plain text. -/
inductive Unwritten : Value → Fault → Prop
  /-- An integer of too many digits is cited with the value. -/
  | long {v : Value} : v.CitesLong → Unwritten v .integerNotWritten
  /-- The value is a moment in a zone that is a day or more from universal time. -/
  | zone {m : Moment} {z : Zone} : m.zone = some z → 86400000000 ≤ z.micros.natAbs →
      Unwritten (.moment m) .offsetTooLarge

theorem textFault?_eq_some_iff {v : Value} {f : Fault} : v.textFault? = some f ↔ v.Unwritten f := by
  have hquote : v.quoteFault? = some f → v.Unwritten f := fun h => by
    obtain ⟨rfl, hlong⟩ := (quoteFault?_eq_some_iff v f).1 h
    exact .long hlong
  constructor
  · intro h
    cases v with
    | moment m =>
      rw [textFault?, Moment.writeFault?] at h
      split at h
      · rename_i z hz
        split_ifs at h with hnear
        obtain rfl := Option.some.inj h
        exact .zone hz (Nat.le_of_not_lt hnear)
      · cases h
    | _ => exact hquote h
  · intro h
    cases h with
    | long hlong =>
      have hfault := (quoteFault?_eq_some_iff v _).2 ⟨rfl, hlong⟩
      cases v with
      | moment m => cases hfault
      | _ => exact hfault
    | @zone m z hz hfar =>
      rw [textFault?, Moment.writeFault?, hz]
      exact if_neg (Nat.not_lt.2 hfar)

theorem textFault?_eq_none_iff {v : Value} : v.textFault? = none ↔ ∀ f, ¬v.Unwritten f := by
  simp only [← textFault?_eq_some_iff, Option.eq_none_iff_forall_ne_some, ne_eq]

theorem not_unwritten_float (x : Binary64) (f : Fault) : ¬(float x).Unwritten f := by
  rw [← textFault?_eq_some_iff]
  simp [textFault?, quoteFault?]

theorem plainText_error_iff {v : Value} {f : Fault} : v.plainText = .error f ↔ v.Unwritten f := by
  rw [← textFault?_eq_some_iff, plainText]
  cases v.textFault? <;> simp

theorem map_plainText_error_iff {α : Type} {g : String → α} {v : Value} {f : Fault} :
    v.plainText.map g = .error f ↔ v.Unwritten f := by
  rw [← plainText_error_iff]
  cases v.plainText <;> simp [Except.map]

theorem plainText_ok_iff {v : Value} {s : String} :
    v.plainText = .ok s ↔ (∀ f, ¬v.Unwritten f) ∧ v.written = s := by
  rw [← textFault?_eq_none_iff, plainText]
  cases v.textFault? <;> simp

end Value

end Extraction
