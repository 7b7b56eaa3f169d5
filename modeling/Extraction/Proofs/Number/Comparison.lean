import Extraction.Proofs.Number.Overflow
import Extraction.Value
import Mathlib.Algebra.Order.Ring.Unbundled.Basic
import Mathlib.Order.WithBot

/-!
# The order of numbers

Integers and double-precision numbers are compared by their exact values, which are rational numbers
or one of two infinities: nothing is rounded for it. Not-a-number has no value to compare.

## Main definitions

* `exact` : the rational numbers among the values.
* `Binary64.value`, `Value.Number.value` : the exact value of a number.

## Main results

* `Binary64.compareInt?_eq`, `Binary64.compare?_eq`, `Value.Number.compare?_eq` : comparing numbers
  compares their values.
-/

namespace Extraction

/-- A rational number among the values of numbers. -/
def exact (q : ℚ) : WithBot (WithTop ℚ) :=
  ((q : WithTop ℚ) : WithBot (WithTop ℚ))

theorem strictMono_exact : StrictMono exact :=
  WithBot.coe_strictMono.comp WithTop.coe_strictMono

theorem bot_lt_exact (q : ℚ) : ⊥ < exact q :=
  WithBot.bot_lt_coe _

theorem exact_lt_top (q : ℚ) : exact q < ⊤ :=
  WithBot.coe_lt_coe.2 (WithTop.coe_lt_top q)

/-- Two integers are in the order of two quotients if they are these quotients with one positive
factor. -/
theorem compare_of_scaled {a b : ℤ} {p q c : ℚ} (hc : 0 < c) (ha : (a : ℚ) = p * c)
    (hb : (b : ℚ) = q * c) : compare a b = compare (exact p) (exact q) := by
  rw [← cmp_eq_compare, ← cmp_eq_compare, strictMono_exact.cmp_map_eq, ← cmp_mul_pos_right hc, ← ha,
    ← hb, (Int.cast_strictMono (R := ℚ)).cmp_map_eq]

namespace Binary64

/-- The exact value of a number. The sign of a zero does not show in it. Not-a-number has none, and
the value that stands here for it means nothing. -/
def value : Binary64 → WithBot (WithTop ℚ)
  | .nan => ⊤
  | .infinite negative => if negative then ⊥ else ⊤
  | .finite negative m e => exact (if negative then -(m * 2 ^ e) else m * 2 ^ e)

/-- The numerator of a number, with its sign, is the number times its denominator. -/
theorem cast_signed_magnitude (s : Bool) (m : Nat) (e : Int) :
    ((if s then -((magnitude m e).1 : Int) else (magnitude m e).1 : Int) : ℚ) =
      (if s then -((m : ℚ) * 2 ^ e) else m * 2 ^ e) * (magnitude m e).2 := by
  have hden : ((magnitude m e).2 : ℚ) ≠ 0 := Nat.cast_ne_zero.2 (magnitude_den_pos m e).ne'
  rw [← magnitude_ratio]
  split_ifs
  · rw [neg_mul, div_mul_cancel₀ _ hden]
    push_cast
    rfl
  · rw [div_mul_cancel₀ _ hden]
    rfl

/-- The same with both multiplied by a natural number. -/
theorem cast_signed_magnitude_mul (s : Bool) (m : Nat) (e : Int) (k : Nat) :
    ((if s then -(((magnitude m e).1 * k : Nat) : Int) else ((magnitude m e).1 * k : Nat) : Int)
        : ℚ) =
      (if s then -((m : ℚ) * 2 ^ e) else m * 2 ^ e) * ((magnitude m e).2 * k) := by
  rw [← mul_assoc, ← cast_signed_magnitude]
  split_ifs
  · push_cast
    exact (neg_mul _ _).symm
  · push_cast
    rfl

/-- A number and an integer are compared by their values. -/
theorem compareInt?_eq {x : Binary64} (hx : x ≠ .nan) (n : Int) :
    x.compareInt? n = some (compare x.value (exact n)) := by
  cases x with
  | nan => exact absurd rfl hx
  | infinite negative =>
    cases negative with
    | true => exact congrArg some (compare_lt_iff_lt.2 (bot_lt_exact n)).symm
    | false => exact congrArg some (compare_gt_iff_gt.2 (exact_lt_top n)).symm
  | finite s m e =>
    refine congrArg some (compare_of_scaled (Nat.cast_pos.2 (magnitude_den_pos m e))
      (cast_signed_magnitude s m e) ?_)
    push_cast
    rfl

theorem compare?_eq {x y : Binary64} (hx : x ≠ .nan) (hy : y ≠ .nan) :
    x.compare? y = some (compare x.value y.value) := by
  cases x with
  | nan => exact absurd rfl hx
  | infinite a =>
    cases y with
    | nan => exact absurd rfl hy
    | infinite b => cases a <;> cases b <;> rfl
    | finite t n f =>
      cases a with
      | true => exact congrArg some (compare_lt_iff_lt.2 (bot_lt_exact _)).symm
      | false => exact congrArg some (compare_gt_iff_gt.2 (exact_lt_top _)).symm
  | finite s m e =>
    cases y with
    | nan => exact absurd rfl hy
    | infinite b =>
      cases b with
      | true => exact congrArg some (compare_gt_iff_gt.2 (bot_lt_exact _)).symm
      | false => exact congrArg some (compare_lt_iff_lt.2 (exact_lt_top _)).symm
    | finite t n f =>
      have hpos : (0 : ℚ) < (magnitude m e).2 * (magnitude n f).2 :=
        mul_pos (Nat.cast_pos.2 (magnitude_den_pos m e)) (Nat.cast_pos.2 (magnitude_den_pos n f))
      exact congrArg some (compare_of_scaled hpos (cast_signed_magnitude_mul s m e _)
        ((cast_signed_magnitude_mul t n f _).trans (congrArg _ (mul_comm _ _))))

end Binary64

namespace Value.Number

/-- The exact value of an integer or a double-precision number. -/
def value : Number → WithBot (WithTop ℚ)
  | .int n => exact n
  | .float x => x.value

/-- Numbers are compared by their exact values. -/
theorem compare?_eq {a b : Number} (ha : a ≠ .float .nan) (hb : b ≠ .float .nan) :
    a.compare? b = some (compare a.value b.value) := by
  cases a with
  | int a =>
    cases b with
    | int b =>
      exact congrArg some (compare_of_scaled one_pos (mul_one _).symm (mul_one _).symm)
    | float y =>
      rw [compare?, Binary64.compareInt?_eq (by simpa using hb), Option.map_some, value, value,
        ← cmp_eq_compare, cmp_swap, cmp_eq_compare]
  | float x =>
    have hx : x ≠ .nan := by simpa using ha
    cases b with
    | int b => exact Binary64.compareInt?_eq hx b
    | float y => exact Binary64.compare?_eq hx (by simpa using hb)

end Value.Number

end Extraction
