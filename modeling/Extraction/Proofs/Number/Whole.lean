import Extraction.Proofs.Number.Nearest
import Mathlib.Data.Rat.Floor

/-!
# Rounding to whole numbers

A quotient with at most 53 binary digits is a double-precision number itself, so that rounding loses
nothing of it; any other one changes by no more than the `2 ^ 53`th part. To round a number half up
to a whole one, a half is added and the floor is taken. Adding the half may round as well: from
`2 ^ 52` on there is no room for it, and an even number is what remains. So a whole number with room
for one more binary digit is what it was, whatever its size.

## Main definitions

* `Binary64.AmountsTo` : the exact value of a number that is finite and has no minus.

## Main results

* `Binary64.amountsTo_ofRatio` : which quotients are numbers themselves.
* `Binary64.AmountsTo.mul`, `Binary64.AmountsTo.add`, `Binary64.AmountsTo.floor?` : the operations
  on exact values.
* `Binary64.amountsTo_ofRatio_le` : how far rounding may go up.
* `Binary64.exists_amountsTo_half` : adding a half to a whole number, and taking the floor.
-/

namespace Extraction.Binary64

/-- A number is finite and has no minus, and this is its exact value. -/
def AmountsTo (x : Binary64) (q : ℚ) : Prop :=
  ∃ m e, x = .finite false m e ∧ m * 2 ^ e = q

theorem AmountsTo.nonneg {x : Binary64} {q : ℚ} (h : x.AmountsTo q) : 0 ≤ q := by
  obtain ⟨m, e, -, rfl⟩ := h
  exact mul_nonneg (Nat.cast_nonneg m) (zpow_nonneg zero_le_two e)

theorem amountsTo_half : (ofRatio false 1 2).AmountsTo (1 / 2) :=
  ⟨_, _, half_eq, by norm_num [twoTo_eq]⟩

/-! ### Operations -/

section Operations

variable {x y : Binary64} {p q : ℚ} {num den : Nat}

theorem AmountsTo.mul (hx : x.AmountsTo p) (hy : y.AmountsTo q) (hden : 0 < den)
    (h : (num : ℚ) / den = p * q) : x.mul y = ofRatio false num den := by
  obtain ⟨m, e, rfl, rfl⟩ := hx
  obtain ⟨n, f, rfl, rfl⟩ := hy
  refine ofRatio_congr (Nat.mul_pos (magnitude_den_pos m e) (magnitude_den_pos n f)) hden ?_ false
  rw [h, ← magnitude_ratio, ← magnitude_ratio, div_mul_div_comm]
  push_cast
  rfl

theorem AmountsTo.add (hx : x.AmountsTo p) (hy : y.AmountsTo q) (hden : 0 < den)
    (h : (num : ℚ) / den = p + q) : x.add y = ofRatio false num den := by
  obtain ⟨m, e, rfl, rfl⟩ := hx
  obtain ⟨n, f, rfl, rfl⟩ := hy
  have hm := magnitude_den_pos m e
  have hn := magnitude_den_pos n f
  have hm' : ((magnitude m e).2 : ℚ) ≠ 0 := Nat.cast_ne_zero.2 hm.ne'
  have hn' : ((magnitude n f).2 : ℚ) ≠ 0 := Nat.cast_ne_zero.2 hn.ne'
  rw [← magnitude_ratio, ← magnitude_ratio, div_add_div _ _ hm' hn'] at h
  simp only [Binary64.add, ofSignedRatio, Bool.false_eq_true, if_false, Bool.and_self]
  generalize magnitude m e = a at *
  generalize magnitude n f = b at *
  have hsum : ((a.1 * b.2 : Nat) : Int) + ((b.1 * a.2 : Nat) : Int) =
      ((a.1 * b.2 + b.1 * a.2 : Nat) : Int) := (Nat.cast_add _ _).symm
  have hsign : (if ((a.1 * b.2 + b.1 * a.2 : Nat) : Int) = 0 then false
      else decide (((a.1 * b.2 + b.1 * a.2 : Nat) : Int) < 0)) = false := by
    split_ifs
    · rfl
    · exact decide_eq_false (by omega)
  rw [hsum, hsign, Int.natAbs_natCast]
  refine ofRatio_congr (Nat.mul_pos hm hn) hden ?_ false
  rw [h]
  push_cast
  ring

theorem AmountsTo.floor? (hx : x.AmountsTo q) : x.floor? = some ⌊q⌋ := by
  obtain ⟨m, e, rfl, rfl⟩ := hx
  have hfdiv : ((magnitude m e).1 : Int).fdiv (magnitude m e).2 =
      (magnitude m e).1 / (magnitude m e).2 := Int.fdiv_eq_ediv_of_nonneg _ (Int.natCast_nonneg _)
  have hfloor : ⌊((magnitude m e).1 : ℚ) / (magnitude m e).2⌋ =
      ((magnitude m e).1 : Int) / (magnitude m e).2 :=
    Rat.floor_intCast_div_natCast (magnitude m e).1 (magnitude m e).2
  rw [← magnitude_ratio, hfloor]
  exact congrArg some hfdiv

end Operations

/-! ### Rounding a quotient -/

section Quotient

variable {num den : Nat}

theorem pack_of_lt {k : Nat} {e : Int} (hk : k < twoTo 53) (he : e ≤ maxExponent) :
    (pack false k e).AmountsTo (k * 2 ^ e) :=
  ⟨k, e, by rw [pack, if_pos hk, if_neg (not_lt.2 he)], rfl⟩

theorem sign_of_pack {negative s : Bool} {k m : Nat} {e f : Int}
    (h : pack negative k e = .finite s m f) : s = negative := by
  unfold pack at h
  split_ifs at h <;> cases h <;> rfl

variable (hden : 0 < den)

include hden

/-- A quotient with at most 53 binary digits is a number itself. -/
theorem amountsTo_ofRatio {j : Nat} {f : Int} (h : (num : ℚ) / den = j * 2 ^ f) (hj : j < 2 ^ 53)
    (hmin : minExponent ≤ f) (hmax : f ≤ maxExponent) :
    (ofRatio false num den).AmountsTo (num / den) := by
  rcases Nat.eq_zero_or_pos num with hzero | hnum
  · rw [ofRatio, if_pos hzero, hzero]
    exact ⟨0, minExponent, rfl, by simp⟩
  obtain ⟨k, e, hpack, -, hround, hbelow, habove⟩ := exists_ofRatio_eq_pack hden hnum false
  have he : (0 : ℚ) < 2 ^ e := zpow_pos two_pos e
  have hf : (0 : ℚ) < 2 ^ f := zpow_pos two_pos f
  have hj' : (j : ℚ) * 2 ^ f < 2 ^ 53 * 2 ^ f := mul_lt_mul_of_pos_right (by exact_mod_cast hj) hf
  -- The unit of the rounding is no larger than that of the quotient.
  have hunit : e ≤ f := by
    rcases habove with habove | rfl
    · have hlt : (2 : ℚ) ^ e < 2 ^ (f + 1) := by
        rw [zpow_add_one₀ two_ne_zero]
        linarith
      exact Int.lt_add_one_iff.1 ((zpow_lt_zpow_iff_right₀ one_lt_two).1 hlt)
    · exact hmin
  have hexact : (num : ℚ) / den = (j * 2 ^ (f - e).toNat : Nat) * 2 ^ e := by
    have hpower : (2 : ℚ) ^ f = 2 ^ (f - e).toNat * 2 ^ e := by
      rw [← zpow_natCast, Int.toNat_of_nonneg (by omega), ← zpow_add₀ two_ne_zero, sub_add_cancel]
    rw [h, hpower]
    push_cast
    ring
  have hk : k = j * 2 ^ (f - e).toNat := by
    refine eq_of_abs_sub_mul_lt he hround ?_
    rw [hexact, sub_self, abs_zero]
    exact half_pos he
  rw [← hk] at hexact
  have hk53 : k < twoTo 53 := by
    rw [hexact] at hbelow
    have hlt : (k : ℚ) < 2 ^ 53 := lt_of_mul_lt_mul_right hbelow he.le
    exact_mod_cast hlt
  rw [hpack, hexact]
  exact pack_of_lt hk53 (hunit.trans hmax)

omit hden in
/-- A quotient that is rounded to a finite number is rounded to one without a minus. -/
theorem exists_amountsTo_ofRatio (h : (ofRatio false num den).isFinite = true) :
    ∃ q, (ofRatio false num den).AmountsTo q := by
  cases hx : ofRatio false num den with
  | finite s m e =>
    obtain rfl : s = false := by
      rw [ofRatio] at hx
      split_ifs at hx
      · cases hx
        rfl
      · exact sign_of_pack hx
    exact ⟨_, m, e, rfl, rfl⟩
  | _ =>
    rw [hx] at h
    cases h

/-- Rounding a quotient that is not below a half adds at most the `2 ^ 53`th part of the result. -/
theorem amountsTo_ofRatio_le {q : ℚ} (h : (ofRatio false num den).AmountsTo q)
    (hhalf : 1 / 2 ≤ (num : ℚ) / den) : q * (2 ^ 53 - 1) ≤ num / den * 2 ^ 53 := by
  obtain ⟨m, e, hx, rfl⟩ := h
  have hclose := abs_sub_le_of_ofRatio hden hx
  have hnormal : (ofRatio false num den).Normal := normal_ofRatio hden false
  rw [hx] at hnormal
  obtain ⟨-, -, -, hm | rfl⟩ := hnormal
  · have he : (0 : ℚ) < 2 ^ e := zpow_pos two_pos e
    have hm' : (2 ^ 52 : ℚ) * 2 ^ e ≤ m * 2 ^ e :=
      mul_le_mul_of_nonneg_right (by exact_mod_cast hm) he.le
    linarith [neg_abs_le ((num : ℚ) / den - m * 2 ^ e)]
  · -- The least unit is far below a half.
    have htiny : (2 : ℚ) ^ minExponent ≤ 2 ^ (-54 : Int) :=
      zpow_le_zpow_right₀ one_le_two (by decide)
    have hsmall : (2 : ℚ) ^ (-54 : Int) = 1 / 2 ^ 54 := by norm_num
    rw [hsmall] at htiny
    generalize (m : ℚ) * 2 ^ minExponent = v at *
    have hlow := neg_abs_le ((num : ℚ) / den - v)
    have hhigh := le_abs_self ((num : ℚ) / den - v)
    linarith

end Quotient

/-! ### Adding a half -/

/-- One more than an even multiple is rounded to the even quotient. -/
theorem roundDiv_even_add_one {d i : Nat} (hd : 2 ≤ d) : roundDiv (2 * (d * i) + 1) d = 2 * i := by
  have hdiv : (2 * (d * i) + 1) / d = 2 * i := by
    rw [Nat.mul_left_comm, Nat.mul_add_div (by omega), Nat.div_eq_of_lt (by omega), Nat.add_zero]
  have hmod : (2 * (d * i) + 1) % d = 1 := by
    rw [Nat.mul_left_comm, Nat.mul_add_mod, Nat.mod_eq_of_lt (by omega)]
  simp only [roundDiv, hdiv, hmod]
  split_ifs <;> omega

theorem exists_two_pow_le {n : Nat} (h : 2 ^ 52 ≤ n) :
    ∃ k, 2 ^ 52 * 2 ^ k ≤ n ∧ n < 2 ^ 53 * 2 ^ k := by
  have hlog : 52 ≤ n.log2 := (Nat.le_log2 (by omega)).2 h
  have hnext : 53 + (n.log2 - 52) = n.log2 + 1 := by omega
  refine ⟨n.log2 - 52, ?_, ?_⟩
  · rw [← pow_add, Nat.add_sub_cancel' hlog]
    exact Nat.log2_self_le (by omega)
  · rw [← pow_add, hnext]
    exact Nat.lt_log2_self

theorem logRatio_add_half {n k : Nat} (hlow : 2 ^ 52 * 2 ^ k ≤ n) (hhigh : n < 2 ^ 53 * 2 ^ k) :
    logRatio (2 * n + 1) 2 = 52 + k := by
  have hcast : ((2 * n + 1 : Nat) : ℚ) / (2 : Nat) = n + 1 / 2 := by
    push_cast
    ring
  have hq : (0 : ℚ) < (2 * n + 1 : Nat) / (2 : Nat) := by positivity
  have hpower (a : Nat) : (2 : ℚ) ^ (a + k : Int) = 2 ^ a * 2 ^ k := by
    rw [← Nat.cast_add, zpow_natCast, pow_add]
  rw [logRatio_eq_log (by omega) two_pos]
  refine le_antisymm (Int.lt_add_one_iff.1 ?_) ?_
  · have hhigh' : ((n + 1 : Nat) : ℚ) ≤ (2 ^ 53 * 2 ^ k : Nat) := Nat.cast_le.2 hhigh
    rw [add_right_comm, log_lt_iff hq, hcast]
    refine lt_of_lt_of_eq ?_ (hpower 53).symm
    push_cast at hhigh'
    linarith
  · have hlow' : ((2 ^ 52 * 2 ^ k : Nat) : ℚ) ≤ n := Nat.cast_le.2 hlow
    rw [le_log_iff hq, hcast]
    refine le_of_eq_of_le (hpower 52) ?_
    push_cast at hlow'
    linarith

/-- The sum of a half and an even multiple of the unit of its rounding is rounded to the
multiple. -/
theorem ofRatio_even_add_half {i k : Nat} (hlow : 2 ^ 52 ≤ 2 * i) (hhigh : 2 * i < 2 ^ 53) :
    ofRatio false (2 * (2 * 2 ^ k * i) + 1) 2 = pack false (2 * i) k := by
  have hlog : logRatio (2 * (2 * 2 ^ k * i) + 1) 2 = 52 + k := by
    have hcomm : 2 * 2 ^ k * i = 2 * i * 2 ^ k := Nat.mul_right_comm 2 (2 ^ k) i
    refine logRatio_add_half ?_ ?_
    · rw [hcomm]
      exact Nat.mul_le_mul_right _ hlow
    · rw [hcomm]
      exact Nat.mul_lt_mul_of_pos_right hhigh (Nat.two_pow_pos k)
  have hexp : max (logRatio (2 * (2 * 2 ^ k * i) + 1) 2 - 52) minExponent = k := by
    rw [hlog, minExponent]
    omega
  have hscaled (n : Nat) : scaled n 2 k = (n, 2 * 2 ^ k) := if_neg (not_lt.2 (Int.natCast_nonneg k))
  have hunit : 2 ≤ 2 * 2 ^ k := Nat.le_mul_of_pos_right 2 (Nat.two_pow_pos k)
  rw [ofRatio, if_neg (by omega), hexp]
  simp only [hscaled, roundDiv_even_add_one hunit]

/-- A half is lost on a number from `2 ^ 52` on that has room for one more binary digit. -/
theorem amountsTo_add_half {j f : Nat} (hj : j < 2 ^ 52) (hlarge : 2 ^ 52 ≤ j * 2 ^ f)
    (hf : (f : Int) ≤ maxExponent) :
    (ofRatio false (2 * (j * 2 ^ f) + 1) 2).AmountsTo (j * 2 ^ f : Nat) := by
  obtain ⟨k, hlow, hhigh⟩ := exists_two_pow_le hlarge
  have hkf : k < f := by
    by_contra hle
    have hpower : 2 ^ f ≤ 2 ^ k := Nat.pow_le_pow_right two_pos (Nat.not_lt.1 hle)
    exact absurd hlow (Nat.not_le.2 (Nat.mul_lt_mul_of_lt_of_le hj hpower (Nat.two_pow_pos k)))
  -- The room that is left makes the number an even multiple of the unit of its rounding.
  obtain ⟨i, hi⟩ : ∃ i, j * 2 ^ f = 2 * 2 ^ k * i := by
    obtain ⟨d, rfl⟩ := Nat.exists_eq_add_of_lt hkf
    exact ⟨j * 2 ^ d, by ring⟩
  have hcomm : 2 * 2 ^ k * i = 2 * i * 2 ^ k := Nat.mul_right_comm 2 (2 ^ k) i
  rw [hi, hcomm] at hlow hhigh
  have hlow' : 2 ^ 52 ≤ 2 * i := Nat.le_of_mul_le_mul_right hlow (Nat.two_pow_pos k)
  have hhigh' : 2 * i < 2 ^ 53 := Nat.lt_of_mul_lt_mul_right hhigh
  have hvalue : ((2 * 2 ^ k * i : Nat) : ℚ) = (2 * i : Nat) * 2 ^ (k : Int) := by
    rw [hcomm, Nat.cast_mul (2 * i), Nat.cast_pow, Nat.cast_ofNat, zpow_natCast]
  rw [hi, ofRatio_even_add_half hlow' hhigh', hvalue]
  exact pack_of_lt hhigh' (by omega)

/-- A whole number with room for one more binary digit is the floor of what rounding leaves of its
sum with a half. -/
theorem exists_amountsTo_half {j f : Nat} (hj : j < 2 ^ 52)
    (hf : (f : Int) ≤ maxExponent) :
    ∃ q, (ofRatio false (2 * (j * 2 ^ f) + 1) 2).AmountsTo q ∧ ⌊q⌋ = (j * 2 ^ f : Nat) := by
  rcases Nat.lt_or_ge (j * 2 ^ f) (2 ^ 52) with hsmall | hlarge
  · have hvalue : ((2 * (j * 2 ^ f) + 1 : Nat) : ℚ) / (2 : Nat) =
        (2 * (j * 2 ^ f) + 1 : Nat) * 2 ^ (-1 : Int) := by
      rw [zpow_neg_one, div_eq_mul_inv, Nat.cast_ofNat]
    refine ⟨_, amountsTo_ofRatio two_pos hvalue (by omega) (by decide) (by decide), ?_⟩
    rw [Int.floor_eq_iff]
    push_cast
    constructor <;> linarith
  · exact ⟨_, amountsTo_add_half hj hlarge hf, Int.floor_natCast _⟩

end Extraction.Binary64
