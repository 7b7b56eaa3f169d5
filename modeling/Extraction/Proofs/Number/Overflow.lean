import Extraction.Number.Decimal
import Mathlib.Data.Int.Log
import Mathlib.Data.Rat.Floor
import Mathlib.Tactic.FieldSimp
import Mathlib.Tactic.Linarith
import Mathlib.Tactic.NormNum
import Mathlib.Tactic.SplitIfs

/-!
# The range of double-precision numbers

A quotient is rounded to an infinity exactly if it reaches the middle between the greatest number
and the power of two above it. The exponent that a quotient is rounded with follows from its binary
logarithm. Only for the greatest exponent does the rounded mantissa decide, and there the middle
counts as too large, since the mantissa above it is the even one.

## Main definitions

* `Binary64.overflowBound` : the least quotient that is rounded to an infinity.
* `Binary64.InRange` : the bounds that the finite results of rounding keep to.

## Main results

* `Binary64.le_roundDiv_iff` : which quotients are rounded to an even number or above.
* `Binary64.logRatio_eq_log` : the binary logarithm of a quotient.
* `Binary64.isFinite_ofRatio_iff` : which quotients have a finite number nearest to them.
* `Binary64.isFinite_add_half` : adding a half stays in the range.
-/

namespace Extraction

theorem twoTo_eq (n : Nat) : twoTo n = 2 ^ n :=
  rfl

theorem twoTo_pos (n : Nat) : 0 < twoTo n :=
  Nat.two_pow_pos n

theorem twoTo_le_twoTo {j k : Nat} (h : j ≤ k) : twoTo j ≤ twoTo k :=
  Nat.pow_le_pow_right two_pos h

namespace Binary64

/-- The least quotient that is rounded to an infinity: `2 ^ 1024 - 2 ^ 970`. -/
def overflowBound : Nat :=
  (twoTo 54 - 1) * twoTo 970

theorem overflowBound_eq : overflowBound = (twoTo 54 - 1) * twoTo 970 :=
  rfl

theorem overflowBound_pos : 0 < overflowBound :=
  Nat.mul_pos (by decide) (twoTo_pos 970)

theorem two_pow_lt_overflowBound {k : Nat} (hk : k < 1024) : 2 ^ k < overflowBound := by
  have hlast : twoTo 1023 < overflowBound := by decide +kernel
  exact (twoTo_le_twoTo (Nat.le_of_lt_succ hk)).trans_lt hlast

-- No step of a proof should compute the bound.
attribute [irreducible] overflowBound

/-! ### Rounding -/

/-- A quotient is rounded to an even number or above exactly if it is at most a half below it. -/
theorem le_roundDiv_iff {n d k : Nat} (hd : 0 < d) (hk : k % 2 = 0) (hpos : 0 < k) :
    k ≤ roundDiv n d ↔ (2 * k - 1) * d ≤ 2 * n := by
  have hn : d * (n / d) + n % d = n := Nat.div_add_mod n d
  have hr : n % d < d := Nat.mod_lt n hd
  simp only [roundDiv]
  generalize n / d = q at *
  generalize n % d = r at *
  obtain ⟨j, rfl⟩ : ∃ j, k = j + 1 := ⟨k - 1, by omega⟩
  have hodd : 2 * (j + 1) - 1 = 2 * j + 1 := by omega
  rw [hodd, ← hn]
  rcases Nat.lt_trichotomy j q with hj | rfl | hj
  · have hle : (j + 1) * d ≤ q * d := Nat.mul_le_mul_right d hj
    have hcomm : d * q = q * d := Nat.mul_comm d q
    refine iff_of_true ?_ ?_
    · split_ifs <;> omega
    · rw [Nat.add_mul, Nat.mul_assoc] at *
      omega
  · have hcomm : d * j = j * d := Nat.mul_comm d j
    rw [Nat.add_mul, Nat.mul_assoc]
    split_ifs <;> omega
  · have hle : (q + 1) * d ≤ j * d := Nat.mul_le_mul_right d hj
    have hcomm : d * q = q * d := Nat.mul_comm d q
    refine iff_of_false ?_ ?_
    · split_ifs <;> omega
    · rw [Nat.add_mul, Nat.mul_assoc] at *
      omega

section Scale

variable {num den : Nat}

theorem scaled_den_pos (hden : 0 < den) (e : Int) : 0 < (scaled num den e).2 := by
  unfold scaled
  split_ifs
  · exact hden
  · exact Nat.mul_pos hden (twoTo_pos _)

theorem scaled_ratio (num den : Nat) (e : Int) :
    ((scaled num den e).1 : ℚ) / (scaled num den e).2 = num / den / 2 ^ e := by
  unfold scaled
  split_ifs with he
  · obtain ⟨k, rfl⟩ : ∃ k : Nat, e = -k := ⟨(-e).toNat, by omega⟩
    rw [neg_neg, Int.toNat_natCast, twoTo_eq, zpow_neg, zpow_natCast]
    push_cast
    field_simp
  · obtain ⟨k, rfl⟩ : ∃ k : Nat, e = k := ⟨e.toNat, by omega⟩
    rw [Int.toNat_natCast, twoTo_eq, zpow_natCast]
    push_cast
    field_simp

theorem scaled_lt_iff (hden : 0 < den) (e : Int) :
    (scaled num den e).1 < (scaled num den e).2 ↔ (num : ℚ) / den < 2 ^ e := by
  have hd : (0 : ℚ) < (scaled num den e).2 := by exact_mod_cast scaled_den_pos hden e
  have he : (0 : ℚ) < 2 ^ e := zpow_pos (by norm_num) e
  rw [← div_lt_one he, ← scaled_ratio, div_lt_one hd, Nat.cast_lt]

theorem log_lt_iff {q : ℚ} (hq : 0 < q) {x : Int} : Int.log 2 q < x ↔ q < 2 ^ x := by
  exact_mod_cast (Int.lt_zpow_iff_log_lt Nat.one_lt_two hq).symm

theorem le_log_iff {q : ℚ} (hq : 0 < q) {x : Int} : x ≤ Int.log 2 q ↔ 2 ^ x ≤ q := by
  exact_mod_cast (Int.zpow_le_iff_le_log Nat.one_lt_two hq).symm

/-- The logarithm of a quotient, in exact arithmetic. -/
theorem logRatio_eq_log (hnum : 0 < num) (hden : 0 < den) :
    logRatio num den = Int.log 2 ((num : ℚ) / den) := by
  have hd : (0 : ℚ) < den := by exact_mod_cast hden
  have hq : (0 : ℚ) < num / den := div_pos (by exact_mod_cast hnum) hd
  have hnum1 : (2 : ℚ) ^ (num.log2 : Int) ≤ num := by
    exact_mod_cast Nat.log2_self_le hnum.ne'
  have hnum2 : (num : ℚ) < 2 ^ ((num.log2 : Int) + 1) := by
    exact_mod_cast Nat.lt_log2_self (n := num)
  have hden1 : (2 : ℚ) ^ (den.log2 : Int) ≤ den := by
    exact_mod_cast Nat.log2_self_le hden.ne'
  have hden2 : (den : ℚ) < 2 ^ ((den.log2 : Int) + 1) := by
    exact_mod_cast Nat.lt_log2_self (n := den)
  have hhigh : (num : ℚ) / den < 2 ^ ((num.log2 : Int) - den.log2 + 1) := by
    rw [div_lt_iff₀ hd]
    calc (num : ℚ) < 2 ^ ((num.log2 : Int) - den.log2 + 1 + den.log2) := by
          rwa [sub_add_eq_add_sub, sub_add_cancel]
      _ = 2 ^ ((num.log2 : Int) - den.log2 + 1) * 2 ^ (den.log2 : Int) :=
          zpow_add₀ two_ne_zero _ _
      _ ≤ _ := mul_le_mul_of_nonneg_left hden1 (zpow_pos two_pos _).le
  have hlow : (2 : ℚ) ^ ((num.log2 : Int) - den.log2 - 1) ≤ num / den := by
    rw [le_div_iff₀ hd]
    calc (2 : ℚ) ^ ((num.log2 : Int) - den.log2 - 1) * den
        ≤ 2 ^ ((num.log2 : Int) - den.log2 - 1) * 2 ^ ((den.log2 : Int) + 1) :=
          mul_le_mul_of_nonneg_left hden2.le (zpow_pos two_pos _).le
      _ = 2 ^ (num.log2 : Int) := by
          rw [← zpow_add₀ two_ne_zero, sub_add_add_cancel, sub_add_cancel]
      _ ≤ num := hnum1
  rw [← log_lt_iff hq] at hhigh
  rw [← le_log_iff hq] at hlow
  unfold logRatio
  simp only [scaled_lt_iff hden, ← log_lt_iff hq]
  split_ifs <;> omega

end Scale

/-! ### Finite results -/

theorem isFinite_pack_iff (negative : Bool) (m : Nat) (e : Int) :
    (pack negative m e).isFinite = true ↔
      e < maxExponent ∨ e = maxExponent ∧ m < twoTo 53 := by
  unfold pack
  split_ifs with hm he he
  · exact iff_of_false (by simp [isFinite]) (by omega)
  · exact iff_of_true rfl (by omega)
  · exact iff_of_false (by simp [isFinite]) (by omega)
  · exact iff_of_true rfl (by omega)

theorem overflowBound_cast : (overflowBound : ℚ) = (2 ^ 54 - 1) * 2 ^ (maxExponent - 1) := by
  have hpower : (2 : ℚ) ^ (maxExponent - 1) = (twoTo 970 : Nat) := by
    rw [show maxExponent - 1 = ((970 : Nat) : Int) from rfl, zpow_natCast, twoTo_eq, Nat.cast_pow,
      Nat.cast_ofNat]
  have hmantissa : ((2 ^ 54 - 1 : Nat) : ℚ) = 2 ^ 54 - 1 := by norm_num
  rw [overflowBound_eq, Nat.cast_mul, hpower, twoTo_eq 54, hmantissa]

theorem two_zpow_maxExponent_add (n : Nat) :
    (2 : ℚ) ^ (maxExponent - 1 + n) = 2 ^ n * 2 ^ (maxExponent - 1) := by
  rw [zpow_add₀ two_ne_zero, zpow_natCast, mul_comm]

section Quotient

variable {num den : Nat} (hden : 0 < den)

include hden

theorem lt_overflowBound_mul_iff :
    num < overflowBound * den ↔ (num : ℚ) / den < (2 ^ 54 - 1) * 2 ^ (maxExponent - 1) := by
  have hd : (0 : ℚ) < den := by exact_mod_cast hden
  rw [div_lt_iff₀ hd, ← overflowBound_cast, ← Nat.cast_mul, Nat.cast_lt]

/-- For the greatest exponent the rounded mantissa decides. -/
theorem roundDiv_scaled_lt_iff :
    roundDiv (scaled num den maxExponent).1 (scaled num den maxExponent).2 < twoTo 53 ↔
      num < overflowBound * den := by
  have hmiddle {n d : Nat} (hd : 0 < d) :
      2 * n < (2 * 2 ^ 53 - 1) * d ↔ (n : ℚ) / d < (2 ^ 54 - 1) / 2 := by
    have hd' : (0 : ℚ) < d := by exact_mod_cast hd
    rw [div_lt_div_iff₀ hd' two_pos, ← Nat.cast_lt (α := ℚ)]
    norm_num [mul_comm]
  have hgreatest : (2 : ℚ) ^ maxExponent = 2 * 2 ^ (maxExponent - 1) := by
    rw [mul_comm, zpow_sub_one₀ two_ne_zero, inv_mul_cancel_right₀ two_ne_zero]
  have hscaled : 0 < (scaled num den maxExponent).2 := scaled_den_pos hden maxExponent
  rw [← Nat.not_le, twoTo_eq, le_roundDiv_iff hscaled (by norm_num) (by norm_num), Nat.not_le,
    hmiddle hscaled, scaled_ratio, div_lt_iff₀ (zpow_pos two_pos _), hgreatest, ← mul_assoc,
    div_mul_cancel₀ _ two_ne_zero, lt_overflowBound_mul_iff hden]

/-- A quotient has a finite number nearest to it exactly if it is below the bound. -/
theorem isFinite_ofRatio_iff (negative : Bool) :
    (ofRatio negative num den).isFinite = true ↔ num < overflowBound * den := by
  unfold ofRatio
  split_ifs with hzero
  · exact iff_of_true rfl (hzero ▸ Nat.mul_pos overflowBound_pos hden)
  have hnum : 0 < num := Nat.pos_of_ne_zero hzero
  have hq : (0 : ℚ) < num / den := div_pos (by exact_mod_cast hnum) (by exact_mod_cast hden)
  have hpos : (0 : ℚ) < 2 ^ (maxExponent - 1) := zpow_pos two_pos _
  simp only [isFinite_pack_iff, logRatio_eq_log hnum hden]
  rcases lt_trichotomy (Int.log 2 ((num : ℚ) / den)) (maxExponent + 52) with h | h | h
  · refine iff_of_true (.inl ?_) ((lt_overflowBound_mul_iff hden).2 ?_)
    · rw [minExponent, maxExponent] at *
      omega
    · have hlog : Int.log 2 ((num : ℚ) / den) < maxExponent - 1 + (53 : Nat) := by
        push_cast
        omega
      rw [log_lt_iff hq, two_zpow_maxExponent_add] at hlog
      exact hlog.trans (mul_lt_mul_of_pos_right (by norm_num) hpos)
  · have he : max (Int.log 2 ((num : ℚ) / den) - 52) minExponent = maxExponent := by
      rw [h, minExponent, maxExponent]
      omega
    rw [he, or_iff_right (lt_irrefl _), and_iff_right rfl, roundDiv_scaled_lt_iff hden]
  · refine iff_of_false ?_ (mt (lt_overflowBound_mul_iff hden).1 (not_lt.2 ?_))
    · rw [minExponent, maxExponent] at *
      omega
    · have hlog : maxExponent - 1 + (54 : Nat) ≤ Int.log 2 ((num : ℚ) / den) := by
        push_cast
        omega
      rw [le_log_iff hq, two_zpow_maxExponent_add] at hlog
      exact (mul_le_mul_of_nonneg_right (by norm_num) hpos.le).trans hlog

end Quotient

/-! ### Numbers in the range -/

/-- The bounds of the mantissa and the exponent of a finite number. -/
def InRange : Binary64 → Prop
  | .finite _ m e => m < twoTo 53 ∧ e ≤ maxExponent
  | _ => True

theorem inRange_pack (negative : Bool) (m : Nat) (e : Int) : (pack negative m e).InRange := by
  unfold pack
  split_ifs with hm he he
  · trivial
  · exact ⟨hm, by omega⟩
  · trivial
  · exact ⟨by decide, by omega⟩

theorem inRange_signedZero (negative : Bool) : (signedZero negative).InRange :=
  ⟨by decide, by decide⟩

theorem inRange_ofRatio (negative : Bool) (num den : Nat) :
    (ofRatio negative num den).InRange := by
  unfold ofRatio
  split_ifs
  · exact inRange_signedZero negative
  · exact inRange_pack ..

theorem magnitude_den_pos (m : Nat) (e : Int) : 0 < (magnitude m e).2 := by
  unfold magnitude
  split_ifs
  · exact twoTo_pos _
  · exact Nat.one_pos

theorem magnitude_ratio (m : Nat) (e : Int) :
    ((magnitude m e).1 : ℚ) / (magnitude m e).2 = m * 2 ^ e := by
  unfold magnitude
  split_ifs with he
  · obtain ⟨k, rfl⟩ : ∃ k : Nat, e = -k := ⟨(-e).toNat, by omega⟩
    rw [neg_neg, Int.toNat_natCast, twoTo_eq, zpow_neg, zpow_natCast, div_eq_mul_inv]
    push_cast
    rfl
  · obtain ⟨k, rfl⟩ : ∃ k : Nat, e = k := ⟨e.toNat, by omega⟩
    rw [Int.toNat_natCast, twoTo_eq, zpow_natCast]
    push_cast
    exact div_one _

/-- A number in the range is so far from the bound that a half can be added to it. -/
theorem magnitude_add_half_lt {m : Nat} {e : Int} (hm : m < twoTo 53) (he : e ≤ maxExponent) :
    ((magnitude m e).1 : ℚ) / (magnitude m e).2 + 1 / 2 < overflowBound := by
  have hm' : (m : ℚ) ≤ 2 ^ 53 - 1 := by
    have h : m + 1 ≤ 2 ^ 53 := hm
    have h' : (m : ℚ) + 1 ≤ 2 ^ 53 := by exact_mod_cast h
    linarith
  have hpower : (2 : ℚ) ^ e ≤ 2 * 2 ^ (maxExponent - 1) := by
    rw [← zpow_one_add₀ two_ne_zero, add_sub_cancel]
    exact zpow_le_zpow_right₀ one_le_two he
  have hone : (1 : ℚ) ≤ 2 ^ (maxExponent - 1) := one_le_zpow₀ one_le_two (by decide)
  rw [magnitude_ratio, overflowBound_cast]
  generalize (2 : ℚ) ^ (maxExponent - 1) = p at *
  calc (m : ℚ) * 2 ^ e + 1 / 2
      ≤ (2 ^ 53 - 1) * (2 * p) + 1 / 2 := by
        have hexp : (0 : ℚ) < 2 ^ e := zpow_pos two_pos e
        gcongr
    _ < (2 ^ 54 - 1) * p := by linarith

theorem half_eq : ofRatio false 1 2 = .finite false (twoTo 52) (-53) := by
  decide +kernel

/-- The sum of two numbers is finite if that of their magnitudes is below the bound. -/
theorem isFinite_add_of_lt {s t : Bool} {m n : Nat} {e f : Int}
    (h : ((magnitude m e).1 : ℚ) / (magnitude m e).2 + (magnitude n f).1 / (magnitude n f).2 <
      overflowBound) : ((finite s m e).add (finite t n f)).isFinite = true := by
  have hm := magnitude_den_pos m e
  have hn := magnitude_den_pos n f
  simp only [add, ofSignedRatio]
  generalize magnitude m e = x at *
  generalize magnitude n f = y at *
  have hx : (0 : ℚ) < x.2 := by exact_mod_cast hm
  have hy : (0 : ℚ) < y.2 := by exact_mod_cast hn
  rw [div_add_div _ _ hx.ne' hy.ne', div_lt_iff₀ (mul_pos hx hy)] at h
  refine (isFinite_ofRatio_iff (Nat.mul_pos hm hn) _).2 (lt_of_le_of_lt ?_ (by exact_mod_cast h))
  rw [Nat.mul_comm x.2 y.1]
  refine (Int.natAbs_add_le _ _).trans (le_of_eq ?_)
  congr 1 <;> split_ifs <;> simp only [Int.natAbs_neg, Int.natAbs_natCast]

/-- Adding a half to a number of the range does not leave it. -/
theorem isFinite_add_half {x : Binary64} (hx : x.InRange) :
    (x.add (ofRatio false 1 2)).isFinite = x.isFinite := by
  rw [half_eq]
  cases x with
  | nan => rfl
  | infinite negative => rfl
  | finite s m e =>
    refine isFinite_add_of_lt (lt_of_eq_of_lt ?_ (magnitude_add_half_lt hx.1 hx.2))
    rw [show magnitude (twoTo 52) (-53) = (twoTo 52, twoTo 53) by decide +kernel]
    norm_num [twoTo_eq]

/-- The product of two numbers is finite exactly if the exact product is below the bound. -/
theorem isFinite_mul_iff {s t : Bool} {m n : Nat} {e f : Int} :
    ((finite s m e).mul (finite t n f)).isFinite = true ↔
      (magnitude m e).1 * (magnitude n f).1 <
        overflowBound * ((magnitude m e).2 * (magnitude n f).2) :=
  isFinite_ofRatio_iff (Nat.mul_pos (magnitude_den_pos m e) (magnitude_den_pos n f)) _

theorem inRange_mul (x y : Binary64) : (x.mul y).InRange := by
  cases x with
  | nan => trivial
  | infinite a =>
    cases y with
    | nan => trivial
    | infinite b => trivial
    | finite t n f =>
      rw [mul]
      split_ifs <;> trivial
  | finite s m e =>
    cases y with
    | nan => trivial
    | infinite b =>
      rw [mul]
      split_ifs <;> trivial
    | finite t n f => exact inRange_ofRatio ..

theorem inRange_nearest (d : Decimal) : d.nearest.InRange := by
  simp only [Decimal.nearest]
  split_ifs
  · exact inRange_signedZero _
  · trivial
  · exact inRange_signedZero _
  · exact inRange_ofRatio ..
  · exact inRange_ofRatio ..

theorem isSome_floor? (x : Binary64) : x.floor?.isSome = x.isFinite := by
  cases x <;> rfl

end Binary64

end Extraction
