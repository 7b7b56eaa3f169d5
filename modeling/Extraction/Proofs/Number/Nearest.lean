import Extraction.Proofs.Number.Overflow
import Mathlib.Tactic.Ring

/-!
# The number nearest to a decimal

The number nearest to a quotient depends on the value of the quotient alone, is in normal form, and
differs from the quotient by at most a half of the unit in its last place. The other way round, a
quotient that differs from a number by less than the `2 ^ 54`th part of it is rounded to this
number, also where the number is a power of two, below which the numbers lie twice as close.

A decimal is read as the number nearest to its exact value: where its power of ten is cut short, the
exact value is so large or so small that it would be rounded to the same infinity or zero.

## Main definitions

* `Binary64.Normal` : the normal form of numbers.
* `Decimal.magnitude` : the exact value of a decimal without its sign.

## Main results

* `Binary64.normal_ofRatio` : rounding gives numbers in normal form.
* `Binary64.abs_sub_le_of_ofRatio` : how far a quotient is from the number nearest to it.
* `Binary64.ofRatio_eq_of_close` : which quotients are close enough to a number.
* `Decimal.nearest_eq_ofRatio` : a decimal is rounded as its exact value.
-/

namespace Extraction

namespace Binary64

/-- The normal form of a number: the exponent is in its bounds, and the mantissa has 53 binary
digits unless the exponent is the least one. -/
def Normal : Binary64 → Prop
  | .finite _ m e =>
    m < twoTo 53 ∧ minExponent ≤ e ∧ e ≤ maxExponent ∧ (twoTo 52 ≤ m ∨ e = minExponent)
  | _ => True

/-! ### Rounding to a natural number -/

section Natural

variable {n d : Nat} (hd : 0 < d)

include hd

theorem abs_sub_roundDiv_le : |(n : ℚ) / d - roundDiv n d| ≤ 1 / 2 := by
  have hd' : (0 : ℚ) < d := by exact_mod_cast hd
  have hn : (n : ℚ) = d * (n / d : Nat) + (n % d : Nat) := by
    exact_mod_cast (Nat.div_add_mod n d).symm
  have hr : ((n % d : Nat) : ℚ) < d := by exact_mod_cast Nat.mod_lt n hd
  have hr' : (0 : ℚ) ≤ (n % d : Nat) := Nat.cast_nonneg _
  have hlow (h : 2 * (n % d) ≤ d) : |(n : ℚ) / d - (n / d : Nat)| ≤ 1 / 2 := by
    have h' : 2 * ((n % d : Nat) : ℚ) ≤ d := by exact_mod_cast h
    rw [hn, add_div, mul_div_cancel_left₀ _ hd'.ne', add_sub_cancel_left,
      abs_of_nonneg (by positivity), div_le_div_iff₀ hd' two_pos]
    linarith
  have hhigh (h : d ≤ 2 * (n % d)) : |(n : ℚ) / d - (n / d + 1 : Nat)| ≤ 1 / 2 := by
    have h' : (d : ℚ) ≤ 2 * (n % d : Nat) := by exact_mod_cast h
    rw [hn, add_div, mul_div_cancel_left₀ _ hd'.ne', Nat.cast_add, Nat.cast_one,
      add_sub_add_left_eq_sub, abs_sub_comm, abs_of_nonneg (sub_nonneg.2 ((div_le_one hd').2 hr.le)), sub_le_comm,
      le_div_iff₀ hd']
    linarith
  simp only [roundDiv]
  split_ifs with hlt hgt heven
  · exact hlow hlt.le
  · exact hhigh (Nat.le_of_lt hgt)
  · exact hlow (by omega)
  · exact hhigh (by omega)

theorem roundDiv_congr {n' d' : Nat} (hd' : 0 < d') (h : (n : ℚ) / d = n' / d') :
    roundDiv n d = roundDiv n' d' := by
  have hscale {a b c : Nat} (hc : 0 < c) : roundDiv (a * c) (b * c) = roundDiv a b := by
    have hcompare : (2 * (a % b * c) < b * c ↔ 2 * (a % b) < b) ∧
        (2 * (a % b * c) > b * c ↔ 2 * (a % b) > b) := by
      rw [← Nat.mul_assoc]
      exact ⟨Nat.mul_lt_mul_right hc, Nat.mul_lt_mul_right hc⟩
    simp only [roundDiv, Nat.mul_div_mul_right _ _ hc, Nat.mul_mod_mul_right, hcompare.1,
      hcompare.2]
  have hcross : n * d' = n' * d := by
    rw [div_eq_div_iff (by exact_mod_cast hd.ne') (by exact_mod_cast hd'.ne')] at h
    exact_mod_cast h
  rw [← hscale hd', hcross, Nat.mul_comm d d', hscale hd]

end Natural

/-! ### Rounding a quotient -/

theorem exists_ratio_eq {q : ℚ} (hq : 0 ≤ q) :
    ∃ num den : Nat, 0 < den ∧ (num : ℚ) / den = q := by
  refine ⟨q.num.toNat, q.den, q.den_pos, ?_⟩
  have hnum : ((q.num.toNat : Int) : ℚ) = q.num := by
    rw [Int.toNat_of_nonneg (Rat.num_nonneg.2 hq)]
  rw [← Int.cast_natCast, hnum]
  exact Rat.num_div_den q

/-- The sign is no part of the rounding. -/
theorem pack_eq_of_false {negative : Bool} {k m : Nat} {e f : Int}
    (h : pack false k e = .finite false m f) : pack negative k e = .finite negative m f := by
  unfold pack at h ⊢
  split_ifs at h ⊢ <;> cases h <;> rfl

theorem ofRatio_eq_of_false {negative : Bool} {num den m : Nat} {e : Int}
    (h : ofRatio false num den = .finite false m e) :
    ofRatio negative num den = .finite negative m e := by
  unfold ofRatio at h ⊢
  split_ifs at h ⊢
  · cases h
    rfl
  · exact pack_eq_of_false h

/-- A multiple that is at most a half of the unit away is the one that is less away. -/
theorem eq_of_abs_sub_mul_lt {k m : Nat} {p q : ℚ} (hp : 0 < p) (hk : |q - k * p| ≤ p / 2)
    (hm : |q - m * p| < p / 2) : k = m := by
  rw [abs_le] at hk
  rw [abs_lt] at hm
  have hle : (k : ℚ) * p < (m + 1) * p := by linarith
  have hge : (m : ℚ) * p < (k + 1) * p := by linarith
  have hle' : (k : ℚ) < m + 1 := lt_of_mul_lt_mul_right hle hp.le
  have hge' : (m : ℚ) < k + 1 := lt_of_mul_lt_mul_right hge hp.le
  have hle'' : k < m + 1 := by exact_mod_cast hle'
  have hge'' : m < k + 1 := by exact_mod_cast hge'
  omega

/-- The number that the exponent of a close quotient belongs to: the number itself, or the numbers
below it if it is a power of two, which lie twice as close. -/
theorem exponent_of_close {q : ℚ} {m : Nat} {e f : Int} {negative : Bool}
    (hx : (finite negative m e).Normal) (hclose : |q - m * 2 ^ e| * 2 ^ 54 < m * 2 ^ e)
    (hmin : minExponent ≤ f) (hbelow : q < 2 ^ 53 * 2 ^ f)
    (habove : 2 ^ 52 * 2 ^ f ≤ q ∨ f = minExponent) : f = e ∨ e = f + 1 ∧ m = twoTo 52 := by
  obtain ⟨hm, hemin, -, hnormal⟩ := hx
  have he : (0 : ℚ) < 2 ^ e := zpow_pos two_pos e
  have hlow : (m : ℚ) * 2 ^ e * (2 ^ 54 - 1) < q * 2 ^ 54 := by
    linarith [neg_abs_le (q - m * 2 ^ e)]
  have hhigh : q * 2 ^ 54 < m * 2 ^ e * (2 ^ 54 + 1) := by
    linarith [le_abs_self (q - m * 2 ^ e)]
  rcases lt_trichotomy f e with hlt | heq | hgt
  · have hm52 : 2 ^ 52 ≤ m := hnormal.resolve_right (by omega)
    have hhalf : (2 : ℚ) ^ f * 2 ≤ 2 ^ e := by
      rw [← zpow_add_one₀ two_ne_zero]
      exact zpow_le_zpow_right₀ one_le_two (by omega)
    have hpower : m = 2 ^ 52 := by
      by_contra hne
      have h : 2 ^ 52 + 1 ≤ m := by omega
      have h' : (2 ^ 52 + 1 : ℚ) ≤ m := by exact_mod_cast h
      have h'' : (2 ^ 52 + 1 : ℚ) * 2 ^ e ≤ m * 2 ^ e := mul_le_mul_of_nonneg_right h' he.le
      linarith
    refine .inr ⟨?_, hpower⟩
    by_contra hne
    have hquarter : (2 : ℚ) ^ f * 2 * 2 ≤ 2 ^ e := by
      rw [← zpow_add_one₀ two_ne_zero, ← zpow_add_one₀ two_ne_zero]
      exact zpow_le_zpow_right₀ one_le_two (by omega)
    rw [hpower] at hlow
    push_cast at hlow
    linarith
  · exact .inl heq
  · have habove' := habove.resolve_right (by omega)
    have hm' : (m : ℚ) * 2 ^ e ≤ (2 ^ 53 - 1) * 2 ^ e := by
      have h : m + 1 ≤ 2 ^ 53 := hm
      have h' : (m : ℚ) + 1 ≤ 2 ^ 53 := by exact_mod_cast h
      exact mul_le_mul_of_nonneg_right (by linarith) he.le
    have hdouble : (2 : ℚ) ^ e * 2 ≤ 2 ^ f := by
      rw [← zpow_add_one₀ two_ne_zero]
      exact zpow_le_zpow_right₀ one_le_two (by omega)
    linarith

section Quotient

variable {num den : Nat} (hden : 0 < den)

include hden

/-- How a positive quotient is rounded: to a multiple of a power of two that is fine enough for 53
binary digits, and no finer than the least one. -/
theorem exists_ofRatio_eq_pack (hnum : 0 < num) (negative : Bool) :
    ∃ k e, ofRatio negative num den = pack negative k e ∧ minExponent ≤ e ∧
      |(num : ℚ) / den - k * 2 ^ e| ≤ 2 ^ e / 2 ∧ (num : ℚ) / den < 2 ^ 53 * 2 ^ e ∧
      (2 ^ 52 * 2 ^ e ≤ (num : ℚ) / den ∨ e = minExponent) := by
  have hq : (0 : ℚ) < num / den := div_pos (by exact_mod_cast hnum) (by exact_mod_cast hden)
  obtain ⟨e, he⟩ : ∃ e, max (logRatio num den - 52) minExponent = e := ⟨_, rfl⟩
  have hexp : (0 : ℚ) < 2 ^ e := zpow_pos two_pos e
  have hscaled : 0 < (scaled num den e).2 := scaled_den_pos hden e
  have hpack : ofRatio negative num den =
      pack negative (roundDiv (scaled num den e).1 (scaled num den e).2) e := by
    rw [ofRatio, if_neg hnum.ne', he]
  rw [logRatio_eq_log hnum hden] at he
  refine ⟨_, e, hpack, he ▸ le_max_right _ _, ?_, ?_, ?_⟩
  · have hround := abs_sub_roundDiv_le (n := (scaled num den e).1) hscaled
    rw [scaled_ratio, div_sub' hexp.ne', abs_div, abs_of_pos hexp, div_le_iff₀ hexp,
      mul_comm (2 ^ e : ℚ)] at hround
    linarith
  · rw [← zpow_natCast, ← zpow_add₀ two_ne_zero, ← log_lt_iff hq]
    push_cast
    omega
  · rw [← zpow_natCast, ← zpow_add₀ two_ne_zero, ← le_log_iff hq]
    push_cast
    omega

/-- The value of a quotient decides what it is rounded to. -/
theorem ofRatio_congr {num' den' : Nat} (hden' : 0 < den') (h : (num : ℚ) / den = num' / den')
    (negative : Bool) : ofRatio negative num den = ofRatio negative num' den' := by
  have hd : (0 : ℚ) < den := by exact_mod_cast hden
  have hd' : (0 : ℚ) < den' := by exact_mod_cast hden'
  have hpos : 0 < num ↔ 0 < num' := by
    rw [← Nat.cast_pos (α := ℚ), ← Nat.cast_pos (α := ℚ) (n := num'), ← div_pos_iff_of_pos_right hd,
      h, div_pos_iff_of_pos_right hd']
  rcases Nat.eq_zero_or_pos num with hzero | hnum
  · rw [ofRatio, if_pos hzero, ofRatio, if_pos (by omega)]
  · have hnum' : 0 < num' := hpos.1 hnum
    have hround (e : Int) : roundDiv (scaled num den e).1 (scaled num den e).2 =
        roundDiv (scaled num' den' e).1 (scaled num' den' e).2 := by
      refine roundDiv_congr (scaled_den_pos hden e) (scaled_den_pos hden' e) ?_
      rw [scaled_ratio, scaled_ratio, h]
    simp only [ofRatio, if_neg hnum.ne', if_neg hnum'.ne', logRatio_eq_log hnum hden,
      logRatio_eq_log hnum' hden', h, hround]

/-- Rounding gives numbers in normal form. -/
theorem normal_ofRatio (negative : Bool) : (ofRatio negative num den).Normal := by
  rcases Nat.eq_zero_or_pos num with hzero | hnum
  · rw [ofRatio, if_pos hzero]
    exact ⟨by decide, le_refl _, by decide, .inr rfl⟩
  obtain ⟨k, e, hpack, hmin, hclose, hbelow, habove⟩ := exists_ofRatio_eq_pack hden hnum negative
  have he : (0 : ℚ) < 2 ^ e := zpow_pos two_pos e
  rw [abs_le] at hclose
  have hk : k ≤ 2 ^ 53 := by
    have h : (k : ℚ) * 2 ^ e < (2 ^ 53 + 1) * 2 ^ e := by linarith
    have h' : (k : ℚ) < 2 ^ 53 + 1 := lt_of_mul_lt_mul_right h he.le
    exact Nat.le_of_lt_succ (by exact_mod_cast h')
  have hk' : 2 ^ 52 ≤ k ∨ e = minExponent := by
    refine habove.imp_left fun habove => ?_
    have h : (2 ^ 52 : ℚ) * 2 ^ e < (k + 1) * 2 ^ e := by linarith
    have h' : (2 ^ 52 : ℚ) < k + 1 := lt_of_mul_lt_mul_right h he.le
    exact Nat.le_of_lt_succ (by exact_mod_cast h')
  rw [hpack, pack]
  split_ifs with hm hmax hmax
  · trivial
  · exact ⟨hm, hmin, by omega, hk'⟩
  · trivial
  · exact ⟨by decide, by omega, by omega, .inl (le_refl _)⟩

/-- A quotient differs from the number nearest to it by at most a half of the last place. -/
theorem abs_sub_le_of_ofRatio {negative s : Bool} {m : Nat} {e : Int}
    (h : ofRatio negative num den = .finite s m e) :
    |(num : ℚ) / den - m * 2 ^ e| ≤ 2 ^ e / 2 := by
  rcases Nat.eq_zero_or_pos num with hzero | hnum
  · rw [ofRatio, if_pos hzero] at h
    cases h
    have hexp : (0 : ℚ) < 2 ^ minExponent / 2 := half_pos (zpow_pos two_pos _)
    simpa [hzero] using hexp.le
  obtain ⟨k, f, hpack, -, hclose, hbelow, -⟩ := exists_ofRatio_eq_pack hden hnum negative
  have hf : (0 : ℚ) < 2 ^ f := zpow_pos two_pos f
  rw [hpack, pack] at h
  split_ifs at h with hm hmax hmax
  · cases h
    exact hclose
  · -- The mantissa had 54 binary digits: it is the next power of two.
    cases h
    have hk : ((2 ^ 53 : Nat) : ℚ) ≤ k := Nat.cast_le.2 (Nat.not_lt.1 hm)
    have hk' : ((2 ^ 53 : Nat) : ℚ) * 2 ^ f ≤ k * 2 ^ f := mul_le_mul_of_nonneg_right hk hf.le
    rw [abs_le] at hclose ⊢
    rw [zpow_add_one₀ two_ne_zero, twoTo_eq]
    push_cast at hk' ⊢
    constructor <;> linarith

/-- A quotient that differs from a number by less than the `2 ^ 54`th part of the number is rounded
to it. -/
theorem ofRatio_eq_of_close {m : Nat} {e : Int} {negative : Bool}
    (hx : (finite negative m e).Normal)
    (hclose : |(num : ℚ) / den - m * 2 ^ e| * 2 ^ 54 < m * 2 ^ e) :
    ofRatio negative num den = .finite negative m e := by
  have he : (0 : ℚ) < 2 ^ e := zpow_pos two_pos e
  have hnum : 0 < num := by
    refine Nat.pos_of_ne_zero fun hzero => ?_
    have hnonneg : (0 : ℚ) ≤ m * 2 ^ e := by positivity
    rw [hzero, Nat.cast_zero, zero_div, zero_sub, abs_neg, abs_of_nonneg hnonneg] at hclose
    linarith
  obtain ⟨k, f, hpack, hfmin, hround, hbelow, habove⟩ := exists_ofRatio_eq_pack hden hnum negative
  have hf : (0 : ℚ) < 2 ^ f := zpow_pos two_pos f
  rcases exponent_of_close hx hclose hfmin hbelow habove with rfl | ⟨rfl, rfl⟩
  · have hm : (m : ℚ) * 2 ^ f < 2 ^ 53 * 2 ^ f :=
      mul_lt_mul_of_pos_right (by exact_mod_cast hx.1) hf
    have hk : k = m := eq_of_abs_sub_mul_lt hf hround (by linarith)
    rw [hpack, hk, pack, if_pos hx.1, if_neg (not_lt.2 hx.2.2.1)]
  · have hdouble : ((twoTo 52 : Nat) : ℚ) * 2 ^ (f + 1) = (2 ^ 53 : Nat) * 2 ^ f := by
      rw [zpow_add_one₀ two_ne_zero, twoTo_eq]
      push_cast
      ring
    rw [hdouble] at hclose
    have hk : k = 2 ^ 53 := by
      refine eq_of_abs_sub_mul_lt hf hround ?_
      push_cast at hclose ⊢
      linarith
    rw [hpack, hk, pack, if_neg (by decide), if_neg (not_lt.2 hx.2.2.1)]

/-- A quotient that reaches the bound is rounded to an infinity. -/
theorem ofRatio_eq_infinite (negative : Bool) (h : overflowBound * den ≤ num) :
    ofRatio negative num den = .infinite negative := by
  have hfinite := mt (isFinite_ofRatio_iff hden negative).1 (not_lt.2 h)
  rcases Nat.eq_zero_or_pos num with hzero | hnum
  · rw [ofRatio, if_pos hzero] at hfinite
    exact absurd rfl hfinite
  obtain ⟨k, e, hpack, -⟩ := exists_ofRatio_eq_pack hden hnum negative
  rw [hpack] at hfinite ⊢
  unfold pack at hfinite ⊢
  split_ifs at hfinite ⊢
  · rfl
  · exact absurd rfl hfinite
  · rfl
  · exact absurd rfl hfinite

/-- A quotient below the half of the least positive number is rounded to zero. -/
theorem ofRatio_eq_signedZero (negative : Bool)
    (h : (num : ℚ) / den < 2 ^ minExponent / 2) :
    ofRatio negative num den = signedZero negative := by
  rcases Nat.eq_zero_or_pos num with hzero | hnum
  · rw [ofRatio, if_pos hzero]
  obtain ⟨k, e, hpack, hmin, hround, -, habove⟩ := exists_ofRatio_eq_pack hden hnum negative
  have he : (0 : ℚ) < 2 ^ e := zpow_pos two_pos e
  have hle : (2 : ℚ) ^ minExponent ≤ 2 ^ e := zpow_le_zpow_right₀ one_le_two hmin
  have hexp : e = minExponent := habove.resolve_left (by linarith)
  have hq : (0 : ℚ) ≤ num / den := by positivity
  have hk : k = 0 := by
    refine eq_of_abs_sub_mul_lt he hround ?_
    rw [Nat.cast_zero, zero_mul, sub_zero, abs_of_nonneg hq, hexp]
    exact h
  rw [hpack, hk, hexp]
  rfl

end Quotient

end Binary64

/-! ### Decimals -/

namespace Decimal

/-- The exact value of a decimal without its sign. -/
def magnitude (d : Decimal) : ℚ :=
  d.coefficient * 10 ^ d.exponent

/-- The place of the first digit of a decimal, counted from the point. -/
def place (d : Decimal) : Int :=
  d.exponent + digitCount d.coefficient

theorem digitCount_pos (n : Nat) : 0 < digitCount n :=
  List.length_pos_iff.2 Nat.toDigits_ne_nil

theorem exists_digitCount_eq_succ (n : Nat) : ∃ k, digitCount n = k + 1 :=
  Nat.exists_eq_succ_of_ne_zero (digitCount_pos n).ne'

theorem lt_pow_digitCount (n : Nat) : n < 10 ^ digitCount n :=
  (Nat.length_toDigits_le_iff (by decide) (digitCount_pos n)).1 (le_refl _)

theorem pow_digitCount_le {n k : Nat} (hn : 0 < n) (hk : digitCount n = k + 1) : 10 ^ k ≤ n := by
  rcases Nat.eq_zero_or_pos k with rfl | hpos
  · exact hn
  · refine Nat.not_lt.1 fun h => ?_
    have hle : digitCount n ≤ k := (Nat.length_toDigits_le_iff (by decide) hpos).2 h
    omega

theorem magnitude_lt_zpow_place (d : Decimal) : d.magnitude < 10 ^ d.place := by
  have h : (d.coefficient : ℚ) < 10 ^ digitCount d.coefficient := by
    exact_mod_cast lt_pow_digitCount d.coefficient
  rw [place, magnitude, add_comm, zpow_add₀ (by norm_num), zpow_natCast]
  exact mul_lt_mul_of_pos_right h (zpow_pos (by norm_num) _)

theorem zpow_place_le_magnitude {d : Decimal} (hd : 0 < d.coefficient) :
    10 ^ (d.place - 1) ≤ d.magnitude := by
  obtain ⟨k, hk⟩ := exists_digitCount_eq_succ d.coefficient
  have h : (10 : ℚ) ^ k ≤ d.coefficient := by exact_mod_cast pow_digitCount_le hd hk
  have hplace : d.place - 1 = k + d.exponent := by
    rw [place, hk]
    push_cast
    ring
  rw [hplace, magnitude, zpow_add₀ (by norm_num), zpow_natCast]
  exact mul_le_mul_of_nonneg_right h (zpow_pos (by norm_num) _).le

theorem tenTo_pos (n : Nat) : 0 < tenTo n :=
  Nat.pow_pos (by decide)

theorem tenTo_cast (n : Nat) : ((tenTo n : Nat) : ℚ) = 10 ^ n := by
  change ((10 ^ n : Nat) : ℚ) = 10 ^ n
  rw [Nat.cast_pow, Nat.cast_ofNat]

/-- The power of ten from which on decimals are infinite. -/
theorem overflowBound_le : (Binary64.overflowBound : ℚ) ≤ 10 ^ (400 : Int) := by
  have h : Binary64.overflowBound ≤ tenTo 400 := by
    rw [Binary64.overflowBound_eq]
    decide +kernel
  rw [show (400 : Int) = (400 : Nat) from rfl, zpow_natCast, ← tenTo_cast]
  exact Nat.cast_le.2 h

/-- The power of ten below which decimals are zero. -/
theorem le_leastHalf : (10 : ℚ) ^ (-400 : Int) ≤ 2 ^ Binary64.minExponent / 2 := by
  have h : ((twoTo 1075 : Nat) : ℚ) ≤ (tenTo 400 : Nat) := Nat.cast_le.2 (by decide +kernel)
  rw [tenTo_cast, twoTo_eq, Nat.cast_pow, Nat.cast_ofNat] at h
  rw [div_eq_mul_inv, ← zpow_sub_one₀ two_ne_zero,
    show Binary64.minExponent - 1 = -(1075 : Nat) from rfl,
    show (-400 : Int) = -(400 : Nat) from rfl, zpow_neg, zpow_neg, zpow_natCast, zpow_natCast]
  exact inv_anti₀ (pow_pos two_pos _) h

/-- A decimal is rounded as its exact value: nothing is lost where its power of ten is cut
short. -/
theorem nearest_eq_ofRatio (d : Decimal) {num den : Nat} (hden : 0 < den)
    (h : (num : ℚ) / den = d.magnitude) : d.nearest = .ofRatio d.negative num den := by
  have hd : (0 : ℚ) < den := by exact_mod_cast hden
  rcases Nat.eq_zero_or_pos d.coefficient with hzero | hpos
  · have hnum : num = 0 := by
      rw [magnitude, hzero, Nat.cast_zero, zero_mul, div_eq_zero_iff, or_iff_left hd.ne'] at h
      exact_mod_cast h
    rw [nearest, if_pos hzero, Binary64.ofRatio, if_pos hnum]
  rw [nearest, if_neg hpos.ne']
  have hlow := zpow_place_le_magnitude hpos
  have hhigh := magnitude_lt_zpow_place d
  rw [← h] at hlow hhigh
  change (if d.place > 400 then _ else if d.place < -400 then _ else _) = _
  split_ifs with hlarge hsmall hexp
  · refine (Binary64.ofRatio_eq_infinite hden _ ?_).symm
    have hbound : (Binary64.overflowBound : ℚ) ≤ 10 ^ (400 : Int) := overflowBound_le
    have hplace : (10 : ℚ) ^ (400 : Int) ≤ 10 ^ (d.place - 1) :=
      zpow_le_zpow_right₀ (by norm_num) (by omega)
    have hq := hbound.trans (hplace.trans hlow)
    rw [le_div_iff₀ hd] at hq
    exact_mod_cast hq
  · refine (Binary64.ofRatio_eq_signedZero hden _ (hhigh.trans_le ?_)).symm
    have hplace : (10 : ℚ) ^ d.place ≤ 10 ^ (-400 : Int) :=
      zpow_le_zpow_right₀ (by norm_num) (by omega)
    exact hplace.trans le_leastHalf
  · refine Binary64.ofRatio_congr (tenTo_pos _) hden ?_ _
    obtain ⟨k, hk⟩ : ∃ k : Nat, d.exponent = -k := ⟨(-d.exponent).toNat, by omega⟩
    rw [h, magnitude, hk, neg_neg, Int.toNat_natCast, zpow_neg, zpow_natCast, tenTo_cast,
      ← div_eq_mul_inv]
  · refine Binary64.ofRatio_congr Nat.one_pos hden ?_ _
    obtain ⟨k, hk⟩ : ∃ k : Nat, d.exponent = k := ⟨d.exponent.toNat, by omega⟩
    rw [h, magnitude, hk, Int.toNat_natCast, zpow_natCast, Nat.cast_one, div_one, Nat.cast_mul,
      tenTo_cast]

/-- The magnitude of a decimal as a quotient. -/
theorem exists_ratio_eq_magnitude (d : Decimal) :
    ∃ num den : Nat, 0 < den ∧ (num : ℚ) / den = d.magnitude :=
  Binary64.exists_ratio_eq (mul_nonneg (Nat.cast_nonneg _) (zpow_nonneg (by norm_num) _))

theorem normal_nearest (d : Decimal) : d.nearest.Normal := by
  obtain ⟨num, den, hden, hd⟩ := exists_ratio_eq_magnitude d
  rw [nearest_eq_ofRatio d hden hd]
  exact Binary64.normal_ofRatio hden _

/-- Decimals of one sign and one value are read as the same number. -/
theorem nearest_congr {d d' : Decimal} (hsign : d.negative = d'.negative)
    (h : d.magnitude = d'.magnitude) : d.nearest = d'.nearest := by
  obtain ⟨num, den, hden, hd⟩ := exists_ratio_eq_magnitude d
  rw [nearest_eq_ofRatio d hden hd, nearest_eq_ofRatio d' hden (hd.trans h), hsign]

/-- The sign of a decimal is that of the number that it is read as. -/
theorem nearest_eq_of_false {d d' : Decimal} {m : Nat} {e : Int} (hsign : d.negative = false)
    (h : d.magnitude = d'.magnitude) (hd : d.nearest = .finite false m e) :
    d'.nearest = .finite d'.negative m e := by
  obtain ⟨num, den, hden, hratio⟩ := exists_ratio_eq_magnitude d
  rw [nearest_eq_ofRatio d hden hratio, hsign] at hd
  rw [nearest_eq_ofRatio d' hden (hratio.trans h)]
  exact Binary64.ofRatio_eq_of_false hd

theorem abs_sub_le_of_nearest {d : Decimal} {s : Bool} {m : Nat} {e : Int}
    (h : d.nearest = .finite s m e) : |d.magnitude - m * 2 ^ e| ≤ 2 ^ e / 2 := by
  obtain ⟨num, den, hden, hd⟩ := exists_ratio_eq_magnitude d
  rw [nearest_eq_ofRatio d hden hd] at h
  rw [← hd]
  exact Binary64.abs_sub_le_of_ofRatio hden h

/-- A decimal that differs from a number by less than the `2 ^ 54`th part of the number is read as
it. -/
theorem nearest_eq_of_close {d : Decimal} {m : Nat} {e : Int}
    (hx : (Binary64.finite d.negative m e).Normal)
    (hclose : |d.magnitude - m * 2 ^ e| * 2 ^ 54 < m * 2 ^ e) :
    d.nearest = .finite d.negative m e := by
  obtain ⟨num, den, hden, hd⟩ := exists_ratio_eq_magnitude d
  rw [nearest_eq_ofRatio d hden hd]
  rw [← hd] at hclose
  exact Binary64.ofRatio_eq_of_close hden hx hclose

end Decimal

end Extraction
