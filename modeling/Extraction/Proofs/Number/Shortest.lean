import Extraction.Proofs.Number.Nearest

/-!
# The shortest decimal of a number

The search for the shortest decimal of a number ends with a decimal that is read as the number: a
grid of seventeen digits is finer than the distance of neighbouring numbers, so that the nearer one
of the two decimals of the grid around the number is close enough to it. What is found lies between
the powers of ten around the number, since the grids of the search contain both.

## Main definitions

* `Binary64.shortest` : the shortest decimal of the magnitude of a number.
* `Binary64.Positional` : the numbers that are written without an exponent.

## Main results

* `Decimal.zpow_firstPlace` : the first digit of a quotient stands where it is looked for.
* `Decimal.isSome_onGrid?_of_le` : seventeen digits are enough for every number.
* `Binary64.shortest_spec` : the shortest decimal of a number is read as the number, and lies between
  the powers of ten around it.
* `Binary64.place_shortest_iff` : the form that the shortest decimal is written in.
-/

namespace Extraction

namespace Decimal

/-! ### The place of the first digit -/

section Place

variable {num den : Nat}

theorem climb_spec {fuel j : Nat} (hlow : num * tenTo j < den)
    (hreach : den ≤ num * tenTo (j + fuel + 1)) :
    ∃ k : Nat, firstPlace.climb num den fuel j = -k ∧ num * tenTo k < den ∧
      den ≤ num * tenTo (k + 1) := by
  induction fuel generalizing j with
  | zero => exact ⟨j, rfl, hlow, hreach⟩
  | succ fuel ih =>
    rw [firstPlace.climb]
    split_ifs with h
    · exact ⟨j, rfl, hlow, h⟩
    · refine ih (Nat.lt_of_not_le h) ?_
      rwa [Nat.add_right_comm j 1 fuel]

/-- The logarithm to base ten is guessed from that to base two with an error of less than five for
all powers of two that a number is divided by. -/
theorem guess_bounds : ∀ t < 1075, (t * 30103 / 100000 - 1 = 0 ∨
    tenTo (t * 30103 / 100000 - 1) * 2 ≤ twoTo t) ∧
      twoTo (t + 1) ≤ tenTo (t * 30103 / 100000 - 1 + 5) := by
  decide +kernel

theorem firstPlace_of_lt (hnum : 0 < num) (hlt : num < den) (hden : den.log2 < 1075) :
    ∃ k : Nat, firstPlace num den = -k ∧ num * tenTo k < den ∧ den ≤ num * tenTo (k + 1) := by
  have hnum1 : 2 ^ num.log2 ≤ num := Nat.log2_self_le hnum.ne'
  have hnum2 : num < 2 ^ (num.log2 + 1) := Nat.lt_log2_self
  have hden1 : 2 ^ den.log2 ≤ den := Nat.log2_self_le (by omega)
  have hden2 : den < 2 ^ (den.log2 + 1) := Nat.lt_log2_self
  have hlog : num.log2 ≤ den.log2 := (Nat.le_log2 (by omega)).2 (hnum1.trans hlt.le)
  obtain ⟨t, ht⟩ : ∃ t, den.log2 = num.log2 + t := ⟨den.log2 - num.log2, by omega⟩
  obtain ⟨hguess, hreach⟩ := guess_bounds t (by omega)
  rw [firstPlace, if_neg (Nat.not_le.2 hlt), ht, Nat.add_sub_cancel_left]
  rw [ht] at hden1 hden2
  generalize t * 30103 / 100000 - 1 = guess at *
  refine climb_spec ?_ ?_
  · rcases hguess with rfl | hguess
    · exact (Nat.mul_one num).trans_lt hlt
    · refine lt_of_mul_lt_mul_right (a := 2) ?_ (Nat.zero_le 2)
      calc num * tenTo guess * 2 = num * (tenTo guess * 2) := Nat.mul_assoc ..
        _ ≤ num * 2 ^ t := Nat.mul_le_mul_left num hguess
        _ < 2 ^ (num.log2 + 1) * 2 ^ t := Nat.mul_lt_mul_of_pos_right hnum2 (Nat.two_pow_pos t)
        _ = 2 ^ (num.log2 + t) * 2 := by ring
        _ ≤ den * 2 := Nat.mul_le_mul_right 2 hden1
  · calc den ≤ 2 ^ (num.log2 + t + 1) := hden2.le
      _ = 2 ^ num.log2 * 2 ^ (t + 1) := by ring
      _ ≤ num * tenTo (guess + 5) := Nat.mul_le_mul hnum1 hreach

/-- The first digit of a quotient stands where it is looked for. -/
theorem zpow_firstPlace (hnum : 0 < num) (hpos : 0 < den) (hden : den.log2 < 1075) :
    (10 : ℚ) ^ (firstPlace num den - 1) ≤ num / den ∧
      (num : ℚ) / den < 10 ^ firstPlace num den := by
  have hd : (0 : ℚ) < den := by exact_mod_cast hpos
  rcases Nat.lt_or_ge num den with hlt | hge
  · obtain ⟨k, hk, hlow, hhigh⟩ := firstPlace_of_lt hnum hlt hden
    have hlow' : (num : ℚ) * 10 ^ k < den := by
      rw [← tenTo_cast]
      exact_mod_cast hlow
    have hhigh' : (den : ℚ) ≤ num * 10 ^ (k + 1) := by
      rw [← tenTo_cast]
      exact_mod_cast hhigh
    have hplace : -(k : Int) - 1 = -(k + 1 : Nat) := by
      push_cast
      ring
    rw [hk, hplace, zpow_neg, zpow_neg, zpow_natCast, zpow_natCast,
      inv_le_iff_one_le_mul₀ (by positivity), div_mul_eq_mul_div, one_le_div hd, div_lt_iff₀ hd,
      ← div_eq_inv_mul, lt_div_iff₀ (by positivity)]
    exact ⟨hhigh', hlow'⟩
  · have hquot : 0 < num / den := Nat.div_pos hge hpos
    obtain ⟨k, hk⟩ := exists_digitCount_eq_succ (num / den)
    have hlow : 10 ^ k * den ≤ num := (Nat.le_div_iff_mul_le hpos).1 (pow_digitCount_le hquot hk)
    have hhigh : num < 10 ^ (k + 1) * den :=
      (Nat.div_lt_iff_lt_mul hpos).1 (hk ▸ lt_pow_digitCount _)
    have hplace : firstPlace num den = (k + 1 : Nat) := by rw [firstPlace, if_pos hge, hk]
    have hplace' : firstPlace num den - 1 = k := by
      rw [hplace]
      push_cast
      ring
    rw [hplace', hplace, zpow_natCast, zpow_natCast, le_div_iff₀ hd, div_lt_iff₀ hd]
    exact ⟨by exact_mod_cast hlow, by exact_mod_cast hhigh⟩

end Place

/-! ### The decimals of a grid around a number -/

section Grid

variable {x : Binary64} {num den : Nat} {e : Int} {d : Decimal}

/-- The lower neighbour of a quotient on a decimal grid. -/
theorem gridBelow_spec (num : Nat) (hden : 0 < den) (e : Int) :
    ((gridBelow num den e).1 : ℚ) * 10 ^ e ≤ num / den ∧
      (num : ℚ) / den < ((gridBelow num den e).1 + 1) * 10 ^ e := by
  have hd : (0 : ℚ) < den := by exact_mod_cast hden
  have he : (0 : ℚ) < 10 ^ e := zpow_pos (by norm_num) e
  obtain ⟨n, k, hk, hratio, hbelow⟩ : ∃ n k : Nat, 0 < k ∧ (n : ℚ) / k = num / den / 10 ^ e ∧
      (gridBelow num den e).1 = n / k := by
    unfold gridBelow
    split_ifs with hneg
    · refine ⟨_, _, hden, ?_, rfl⟩
      obtain ⟨j, rfl⟩ : ∃ j : Nat, e = -j := ⟨(-e).toNat, by omega⟩
      rw [neg_neg, Int.toNat_natCast, Nat.cast_mul, tenTo_cast, zpow_neg, zpow_natCast,
        div_inv_eq_mul, div_mul_eq_mul_div]
    · refine ⟨_, _, Nat.mul_pos hden (tenTo_pos _), ?_, rfl⟩
      obtain ⟨j, rfl⟩ : ∃ j : Nat, e = j := ⟨e.toNat, by omega⟩
      rw [Int.toNat_natCast, Nat.cast_mul, tenTo_cast, zpow_natCast, div_div]
  have hk' : (0 : ℚ) < k := by exact_mod_cast hk
  have hlow : ((n / k : Nat) : ℚ) * k ≤ n := by exact_mod_cast Nat.div_mul_le_self n k
  have hhigh : (n : ℚ) < ((n / k : Nat) + 1) * k := by
    exact_mod_cast (Nat.div_lt_iff_lt_mul hk).1 (Nat.lt_succ_self (n / k))
  rw [hbelow, ← le_div_iff₀ he, ← div_lt_iff₀ he, ← hratio, le_div_iff₀ hk', div_lt_iff₀ hk']
  exact ⟨hlow, hhigh⟩

/-- The neighbours of a quotient lie between the powers of ten around it, if those are on the
grid. -/
theorem gridBelow_bounds {p : Int} (k : Nat) (hden : 0 < den) (hlow : (10 : ℚ) ^ p ≤ num / den)
    (hhigh : (num : ℚ) / den < 10 ^ (p + 1)) :
    10 ^ p ≤ ((gridBelow num den (p - k)).1 : ℚ) * 10 ^ (p - k) ∧
      ((gridBelow num den (p - k)).1 + 1 : ℚ) * 10 ^ (p - k) ≤ 10 ^ (p + 1) := by
  have hgrid : (0 : ℚ) < 10 ^ (p - k) := zpow_pos (by norm_num) _
  have hp : (10 : ℚ) ^ p = 10 ^ k * 10 ^ (p - k) := by
    rw [← zpow_natCast, ← zpow_add₀ (by norm_num), add_sub_cancel]
  have hp' : (10 : ℚ) ^ (p + 1) = 10 ^ (k + 1) * 10 ^ (p - k) := by
    rw [zpow_add_one₀ (by norm_num), hp, pow_succ]
    ring
  obtain ⟨hbelow, habove⟩ := gridBelow_spec num hden (p - k)
  generalize (gridBelow num den (p - k)).1 = c at *
  rw [hp] at hlow
  rw [hp'] at hhigh
  have hc : (10 : ℚ) ^ k < c + 1 := lt_of_mul_lt_mul_right (hlow.trans_lt habove) hgrid.le
  have hc' : (c : ℚ) < 10 ^ (k + 1) := lt_of_mul_lt_mul_right (hbelow.trans_lt hhigh) hgrid.le
  have hle : 10 ^ k ≤ c := Nat.le_of_lt_succ (by exact_mod_cast hc)
  have hle' : c + 1 ≤ 10 ^ (k + 1) := Nat.succ_le_of_lt (by exact_mod_cast hc')
  rw [hp, hp']
  exact ⟨mul_le_mul_of_nonneg_right (by exact_mod_cast hle) hgrid.le,
    mul_le_mul_of_nonneg_right (by exact_mod_cast hle') hgrid.le⟩

/-- What is found on a grid is read as the number, and is one of the neighbours of the quotient. -/
theorem onGrid?_eq_some (h : onGrid? x num den e = some d) :
    d.nearest = x ∧ (d = ⟨false, (gridBelow num den e).1, e⟩ ∨
      d = ⟨false, (gridBelow num den e).1 + 1, e⟩) := by
  cases hlow : (⟨false, (gridBelow num den e).1, e⟩ : Decimal).nearest == x with
  | true =>
    cases hhigh : (⟨false, (gridBelow num den e).1 + 1, e⟩ : Decimal).nearest == x with
    | true =>
      simp only [onGrid?, hlow, hhigh] at h
      split_ifs at h
      · cases h
        exact ⟨beq_iff_eq.1 hhigh, .inr rfl⟩
      · cases h
        exact ⟨beq_iff_eq.1 hlow, .inl rfl⟩
    | false =>
      simp only [onGrid?, hlow, hhigh] at h
      cases h
      exact ⟨beq_iff_eq.1 hlow, .inl rfl⟩
  | false =>
    cases hhigh : (⟨false, (gridBelow num den e).1 + 1, e⟩ : Decimal).nearest == x with
    | true =>
      simp only [onGrid?, hlow, hhigh] at h
      cases h
      exact ⟨beq_iff_eq.1 hhigh, .inr rfl⟩
    | false =>
      simp only [onGrid?, hlow, hhigh] at h
      cases h

/-- A decimal is found on a grid if one of the neighbours of the quotient is read as the number. -/
theorem isSome_onGrid? (h : (⟨false, (gridBelow num den e).1, e⟩ : Decimal).nearest = x ∨
    (⟨false, (gridBelow num den e).1 + 1, e⟩ : Decimal).nearest = x) :
    (onGrid? x num den e).isSome = true := by
  rcases h with h | h
  · cases hhigh : (⟨false, (gridBelow num den e).1 + 1, e⟩ : Decimal).nearest == x <;>
      simp [onGrid?, h, hhigh]
  · cases hlow : (⟨false, (gridBelow num den e).1, e⟩ : Decimal).nearest == x <;>
      simp [onGrid?, h, hlow]

/-- What the search ends with was found on one of its grids, if there is anything to be found. -/
theorem search_spec {fuel : Nat} (h : ∃ k < fuel, (onGrid? x num den (e - k)).isSome = true) :
    ∃ k < fuel, onGrid? x num den (e - k) = some (shortest.search x num den fuel e) := by
  induction fuel generalizing e with
  | zero =>
    obtain ⟨k, hk, -⟩ := h
    exact absurd hk (Nat.not_lt_zero k)
  | succ fuel ih =>
    cases hgrid : onGrid? x num den e with
    | some d =>
      refine ⟨0, Nat.succ_pos fuel, ?_⟩
      simp [shortest.search, hgrid]
    | none =>
      have hstep (k : Nat) : e - (k + 1 : Nat) = e - 1 - k := by
        push_cast
        ring
      obtain ⟨k, hk, hsome⟩ := h
      cases k with
      | zero => simp [hgrid] at hsome
      | succ k =>
        rw [hstep] at hsome
        obtain ⟨j, hj, hfound⟩ := ih ⟨k, Nat.lt_of_succ_lt_succ hk, hsome⟩
        refine ⟨j + 1, Nat.succ_lt_succ hj, ?_⟩
        rw [hstep, hfound, shortest.search, hgrid]
        rfl

end Grid

/-! ### The shortest decimal -/

section Shortest

variable {m : Nat} {e : Int} {num den : Nat} (hx : (Binary64.finite false m e).Normal)
  (hden : 0 < den) (hratio : (num : ℚ) / den = m * 2 ^ e)

include hx hden hratio

/-- Seventeen digits are enough: one of the neighbours of a number is close enough to it. -/
theorem isSome_onGrid?_of_le {g : Int} (hg : (10 : ℚ) ^ g * 10 ^ 16 ≤ num / den) :
    (onGrid? (.finite false m e) num den g).isSome = true := by
  have hpos : (0 : ℚ) < 10 ^ g := zpow_pos (by norm_num) g
  obtain ⟨hlow, hhigh⟩ := gridBelow_spec num hden g
  refine isSome_onGrid? ?_
  generalize (gridBelow num den g).1 = k at *
  rcases le_total ((num : ℚ) / den - k * 10 ^ g) (10 ^ g / 2) with h | h
  · refine .inl (nearest_eq_of_close hx ?_)
    rw [magnitude, ← hratio, abs_sub_comm, abs_of_nonneg (sub_nonneg.2 hlow)]
    linarith
  · refine .inr (nearest_eq_of_close hx ?_)
    rw [magnitude, ← hratio]
    push_cast
    rw [abs_of_nonneg (sub_nonneg.2 hhigh.le)]
    linarith

/-- The shortest decimal of a number is read as the number, and lies between the powers of ten
around it. -/
theorem shortest_spec {p : Int} (hp : firstPlace num den = p + 1) (hlow : (10 : ℚ) ^ p ≤ num / den)
    (hhigh : (num : ℚ) / den < 10 ^ (p + 1)) :
    (shortest (.finite false m e) num den).nearest = .finite false m e ∧
      (shortest (.finite false m e) num den).negative = false ∧
      10 ^ p ≤ (shortest (.finite false m e) num den).magnitude ∧
      (shortest (.finite false m e) num den).magnitude ≤ 10 ^ (p + 1) := by
  have hseventeen :
      ∃ k < 17, (onGrid? (.finite false m e) num den (p - (k : Nat))).isSome = true := by
    refine ⟨16, by decide, isSome_onGrid?_of_le hx hden hratio (le_of_eq_of_le ?_ hlow)⟩
    rw [← zpow_natCast, ← zpow_add₀ (by norm_num)]
    exact congrArg _ (sub_add_cancel p 16)
  obtain ⟨k, -, hfound⟩ := search_spec hseventeen
  simp only [shortest, hp, add_sub_cancel_right]
  generalize shortest.search _ _ _ _ _ = d at *
  obtain ⟨hread, hd⟩ := onGrid?_eq_some hfound
  obtain ⟨hbelow, habove⟩ := gridBelow_bounds k hden hlow hhigh
  have hgrid : (0 : ℚ) < 10 ^ (p - k) := zpow_pos (by norm_num) _
  refine ⟨hread, ?_⟩
  rcases hd with rfl | rfl
  · refine ⟨rfl, hbelow, ?_⟩
    rw [magnitude]
    linarith
  · rw [magnitude]
    push_cast
    exact ⟨rfl, by linarith, habove⟩

end Shortest

end Decimal

namespace Binary64

/-- The shortest decimal of the magnitude of a finite number. -/
def shortest (m : Nat) (e : Int) : Decimal :=
  .shortest (.finite false m e) (magnitude m e).1 (magnitude m e).2

/-- Whether a number is written without an exponent: it is not finite or zero, or its magnitude is
from `10 ^ -4` up to, but not including, `10 ^ 16`. -/
def Positional : Binary64 → Prop
  | .finite _ m e => m = 0 ∨ (10 : ℚ) ^ (-4 : Int) ≤ m * 2 ^ e ∧ (m : ℚ) * 2 ^ e < 10 ^ (16 : Int)
  | _ => True

section Finite

variable {m : Nat} {e : Int} (hx : (finite false m e).Normal)

include hx

theorem log2_magnitude_lt : (magnitude m e).2.log2 < 1075 := by
  have hmin : (-1074 : Int) ≤ e := hx.2.1
  unfold magnitude
  split_ifs
  · rw [twoTo_eq, Nat.log2_two_pow]
    omega
  · exact (by decide : Nat.log2 1 < 1075)

variable (hm : 0 < m)

include hm

/-- The shortest decimal of a number is read as the number, and lies between the powers of ten
around it. -/
theorem shortest_spec :
    (shortest m e).nearest = .finite false m e ∧ (shortest m e).negative = false ∧
      ∃ p : Int, (10 : ℚ) ^ p ≤ m * 2 ^ e ∧ (m : ℚ) * 2 ^ e < 10 ^ (p + 1) ∧
        10 ^ p ≤ (shortest m e).magnitude ∧ (shortest m e).magnitude ≤ 10 ^ (p + 1) := by
  have hden := magnitude_den_pos m e
  have hratio := magnitude_ratio m e
  have hnum : 0 < (magnitude m e).1 := by
    have hpos : (0 : ℚ) < m * 2 ^ e := mul_pos (by exact_mod_cast hm) (zpow_pos two_pos e)
    rw [← hratio] at hpos
    refine Nat.pos_of_ne_zero fun hzero => ?_
    rw [hzero, Nat.cast_zero, zero_div] at hpos
    exact lt_irrefl _ hpos
  have hplace := Decimal.zpow_firstPlace hnum hden (log2_magnitude_lt hx)
  obtain ⟨p, hp⟩ : ∃ p, Decimal.firstPlace (magnitude m e).1 (magnitude m e).2 = p + 1 :=
    ⟨_, (sub_add_cancel _ 1).symm⟩
  rw [hp, add_sub_cancel_right] at hplace
  obtain ⟨hread, hsign, hbounds⟩ := Decimal.shortest_spec hx hden hratio hp hplace.1 hplace.2
  rw [hratio] at hplace
  exact ⟨hread, hsign, p, hplace.1, hplace.2, hbounds⟩

theorem shortest_coefficient_pos : 0 < (shortest m e).coefficient := by
  obtain ⟨-, -, p, -, -, hlow, -⟩ := shortest_spec hx hm
  refine Nat.pos_of_ne_zero fun hzero => ?_
  rw [Decimal.magnitude, hzero, Nat.cast_zero, zero_mul] at hlow
  exact absurd hlow (not_le.2 (zpow_pos (by norm_num) p))

/-- The place of the first digit in the shortest decimal tells whether the number is one that is
written without an exponent. -/
theorem place_shortest_iff :
    -4 < (shortest m e).place ∧ (shortest m e).place ≤ 16 ↔
      (10 : ℚ) ^ (-4 : Int) ≤ m * 2 ^ e ∧ (m : ℚ) * 2 ^ e < 10 ^ (16 : Int) := by
  obtain ⟨hread, hsign, p, hlow, hhigh, hlow', hhigh'⟩ := shortest_spec hx hm
  have hplace := Decimal.zpow_place_le_magnitude (shortest_coefficient_pos hx hm)
  have hplace' := Decimal.magnitude_lt_zpow_place (shortest m e)
  have hten : (1 : ℚ) < 10 := by norm_num
  have hle : p < (shortest m e).place := (zpow_lt_zpow_iff_right₀ hten).1 (hlow'.trans_lt hplace')
  have hbounds : -4 ≤ p ∧ p < 16 ↔
      (10 : ℚ) ^ (-4 : Int) ≤ m * 2 ^ e ∧ (m : ℚ) * 2 ^ e < 10 ^ (16 : Int) := by
    refine and_congr ⟨fun h => ?_, fun h => ?_⟩ ⟨fun h => ?_, fun h => ?_⟩
    · exact (zpow_le_zpow_right₀ hten.le h).trans hlow
    · exact Int.lt_add_one_iff.1 ((zpow_lt_zpow_iff_right₀ hten).1 (h.trans_lt hhigh))
    · exact hhigh.trans_le (zpow_le_zpow_right₀ hten.le h)
    · exact (zpow_lt_zpow_iff_right₀ hten).1 (hlow.trans_lt h)
  rw [← hbounds]
  rcases hhigh'.lt_or_eq with hlt | heq
  · have hge : (shortest m e).place - 1 < p + 1 :=
      (zpow_lt_zpow_iff_right₀ hten).1 (hplace.trans_lt hlt)
    omega
  · -- The shortest decimal is a power of ten above the number. Neither bound is such a power.
    rw [heq] at hplace hplace'
    have hge : (shortest m e).place - 1 ≤ p + 1 := (zpow_le_zpow_iff_right₀ hten).1 hplace
    have hgt : p + 1 < (shortest m e).place := (zpow_lt_zpow_iff_right₀ hten).1 hplace'
    have hpower : (⟨false, 1, p + 1⟩ : Decimal).nearest = .finite false m e := by
      rw [← hread]
      refine Decimal.nearest_congr hsign.symm ?_
      rw [heq, Decimal.magnitude, Nat.cast_one, one_mul]
    have hlower : p ≠ -5 := by
      rintro rfl
      have hvalue : (⟨false, 1, -5 + 1⟩ : Decimal).nearest =
          .finite false 7378697629483821 (-66) := by decide +kernel
      cases hpower.symm.trans hvalue
      norm_num at hhigh
    have hupper : p ≠ 15 := by
      rintro rfl
      have hvalue : (⟨false, 1, 15 + 1⟩ : Decimal).nearest =
          .finite false 5000000000000000 1 := by decide +kernel
      cases hpower.symm.trans hvalue
      norm_num at hhigh
    omega

end Finite

end Binary64

end Extraction
