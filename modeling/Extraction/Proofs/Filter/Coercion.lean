import Extraction.Filter.Registry
import Extraction.Proofs.Filter.Numerals
import Extraction.Proofs.Value.Decidable
import Mathlib.Data.List.Induction

/-!
# Coercing to a number again

What the filter for integers finds, it finds again in its own result: the text of a natural number
is its digits, and not-a-number has none. The filter for decimals finds a number again exactly if
the text of the number has no exponent. Otherwise it reads the digits in front of the exponent only,
and so ends with a number from one to ten, which is never the number itself.

## Main definitions

* `Binary64.significand` : the number nearest to the significand of a number.

## Main results

* `Filter.toInteger_again` : integers are found again.
* `Filter.toFloat_of_positional`, `Filter.toFloat_of_not_positional` : what is found in a number.
* `Filter.Builtin.outcome_again` : the two filters on their own results.
-/

namespace Extraction

open Text

/-! ### Integers -/

namespace Decimal

theorem getD_digitValue?_lt (c : Char) : (digitValue? c).getD 0 < 10 := by
  have hblock (zeros : List Nat) (n : Nat) : (digitValueIn zeros n).getD 0 < 10 := by
    induction zeros with
    | nil => exact Nat.succ_pos 9
    | cons first rest ih =>
      rw [digitValueIn]
      split_ifs with hlow hhigh
      · exact Nat.succ_pos 9
      · exact Nat.sub_lt_left_of_lt_add (Nat.not_lt.1 hlow) hhigh
      · exact ih
  exact hblock digitZeros c.toNat

theorem digitsValue_lt (ds : List Char) : digitsValue ds < tenTo ds.length := by
  induction ds using List.reverseRecOn with
  | nil => exact Nat.one_pos
  | append_singleton ds c ih =>
    have hc := getD_digitValue?_lt c
    have hpower : tenTo (ds.length + 1) = tenTo ds.length * 10 := Nat.pow_succ ..
    rw [digitsValue_append_singleton, List.length_append, List.length_singleton, hpower]
    omega

theorem tenTo_le_tenTo {j k : Nat} (h : j ≤ k) : tenTo j ≤ tenTo k :=
  Nat.pow_le_pow_right (by decide) h

end Decimal

namespace Filter

/-- The filter for integers finds nothing, or a natural number that can be written. -/
theorem toInteger_ok {v r : Value} (h : toInteger v [] = .ok r) :
    r = .float .nan ∨ ∃ n : Nat, r = .int n ∧ n < tenTo Integer.maxDigits := by
  cases hs : v.plainText with
  | error f => simp [toInteger, hs, bind, Except.bind] at h
  | ok s =>
    rw [toInteger_nil_of_plainText hs] at h
    split_ifs at h with hempty
    · cases h
      exact .inl rfl
    · rw [List.isEmpty_iff] at hempty
      rw [leadingInteger_of_digits (fun c => isDigit_of_mem_firstDigits) hempty] at h
      split_ifs at h with hlong
      cases h
      have hlt := Decimal.digitsValue_lt (firstDigits s.toList)
      exact .inr ⟨_, rfl, hlt.trans_le (Decimal.tenTo_le_tenTo (Nat.not_lt.1 hlong))⟩

/-- A natural number that can be written is found in itself. -/
theorem toInteger_natCast {n : Nat} (hn : n < tenTo Integer.maxDigits) :
    toInteger (.int n) [] = .ok (.int n) := by
  have hdigits : ∀ c ∈ Decimal.digitChars n, isDigit c = true := fun c => isDigit_of_mem_toDigits
  have hne : Decimal.digitChars n ≠ [] := Nat.toDigits_ne_nil
  have hwritten (f : Fault) : ¬(Value.int n).Unwritten f := by
    rintro ⟨hlong⟩
    exact Nat.not_lt.2 (Value.citesLong_int_iff.1 hlong) hn
  have hplain : (Value.int n).plainText = .ok (String.ofList (Decimal.digitChars n)) :=
    Value.plainText_ok_iff.2 ⟨hwritten, Nat.repr_eq_ofList_toDigits⟩
  have hfirst : firstDigits (Decimal.digitChars n) = Decimal.digitChars n := by
    obtain ⟨c, rest, hcons⟩ := List.exists_cons_of_ne_nil hne
    have hc : isDigit c = true := hdigits c (hcons ▸ List.mem_cons_self)
    rw [firstDigits, hcons, List.dropWhile_cons_of_neg (by simp [hc]), ← hcons]
    exact List.takeWhile_eq_self_iff.2 hdigits
  have hlength : ¬(Decimal.digitChars n).length > Integer.maxDigits :=
    Nat.not_lt.2 ((Decimal.digitCount_le_iff (by decide)).2 hn)
  rw [toInteger_nil_of_plainText hplain, String.toList_ofList, hfirst, if_neg (by simpa using hne),
    leadingInteger_of_digits hdigits hne, if_neg hlength, Decimal.digitsValue_digitChars]

/-- Integers are found again. -/
theorem toInteger_again {v r : Value} (h : toInteger v [] = .ok r) : toInteger r [] = .ok r := by
  rcases toInteger_ok h with rfl | ⟨n, rfl, hn⟩
  · rfl
  · exact toInteger_natCast hn

end Filter

/-! ### Decimals -/

/-- A decimal with the point behind its first digit, and with the given sign. -/
def Decimal.significand (negative : Bool) (d : Decimal) : Decimal :=
  ⟨negative, d.coefficient, 1 - digitCount d.coefficient⟩

theorem Decimal.magnitude_significand (negative : Bool) (d : Decimal) :
    (d.significand negative).magnitude = d.magnitude * 10 ^ (1 - d.place) := by
  have hpower : (1 - digitCount d.coefficient : Int) = d.exponent + (1 - d.place) := by
    rw [place]
    ring
  rw [magnitude, magnitude, significand, hpower, zpow_add₀ (by norm_num), mul_assoc]

namespace Binary64

/-- The number nearest to the significand of a number. -/
def significand : Binary64 → Binary64
  | .finite negative m e => ((shortest m e).significand negative).nearest
  | x => x

/-- A number that is written with an exponent is not its significand, which is from one to ten. -/
theorem significand_ne {x : Binary64} (hx : x.Normal) (h : ¬x.Positional) : x.significand ≠ x := by
  cases x with
  | nan => exact absurd trivial h
  | infinite negative => exact absurd trivial h
  | finite negative m e =>
    intro hread
    have hm : 0 < m := Nat.pos_of_ne_zero fun hzero => h (.inl hzero)
    have hx' : (finite false m e).Normal := hx
    have hplace : ((shortest m e).significand negative).place = 1 := sub_add_cancel ..
    have hlow := Decimal.zpow_place_le_magnitude (d := (shortest m e).significand negative)
      (shortest_coefficient_pos hx' hm)
    have hhigh := Decimal.magnitude_lt_zpow_place ((shortest m e).significand negative)
    have hclose := Decimal.abs_sub_le_of_nearest hread
    rw [hplace] at hlow hhigh
    generalize ((shortest m e).significand negative).magnitude = q at *
    have hone : (1 : ℚ) ≤ m := by exact_mod_cast hm
    have hunit : (2 : ℚ) ^ e ≤ m * 2 ^ e := le_mul_of_one_le_left (zpow_pos two_pos e).le hone
    rw [abs_le] at hclose
    rcases not_and_or.1 fun h' => h (.inr h') with hsmall | hlarge
    · norm_num at hsmall hlow
      linarith
    · norm_num at hlarge hhigh
      linarith

end Binary64

namespace Filter

theorem plainText_float (x : Binary64) : (Value.float x).plainText = .ok x.written :=
  Value.plainText_ok_iff.2 ⟨Value.not_unwritten_float x, rfl⟩

/-- A number that is written without an exponent is found in itself. -/
theorem toFloat_of_positional {x : Binary64} (hx : x.Normal) (h : x.Positional) :
    toFloat (.float x) [] = .ok (.float x) := by
  cases x with
  | nan => rfl
  | infinite negative => cases negative <;> rfl
  | finite negative m e =>
    rcases Nat.eq_zero_or_pos m with rfl | hm
    · obtain ⟨-, -, -, hnormal⟩ := hx
      obtain rfl : e = Binary64.minExponent := hnormal.resolve_left (by decide)
      cases negative <;> rfl
    · have hx' : (Binary64.finite false m e).Normal := hx
      have hplace := (Binary64.place_shortest_iff hx' hm).2 (h.resolve_left hm.ne')
      obtain ⟨hread, hsign, -⟩ := Binary64.shortest_spec hx' hm
      obtain ⟨t, ht, rfl, hmagnitude, -⟩ :=
        firstDecimal?_written (Binary64.shortest_coefficient_pos hx' hm) negative
      rw [toFloat_of_firstDecimal? (plainText_float _) (toList_written hm.ne' ▸ ht),
        Decimal.nearest_eq_of_false hsign (hmagnitude hplace).symm hread]

/-- In a number that is written with an exponent its significand is found. -/
theorem toFloat_of_not_positional {x : Binary64} (hx : x.Normal) (h : ¬x.Positional) :
    toFloat (.float x) [] = .ok (.float x.significand) := by
  cases x with
  | nan => exact absurd trivial h
  | infinite negative => exact absurd trivial h
  | finite negative m e =>
    have hm : 0 < m := Nat.pos_of_ne_zero fun hzero => h (.inl hzero)
    have hx' : (Binary64.finite false m e).Normal := hx
    have hplace := mt (Binary64.place_shortest_iff hx' hm).1 fun h' => h (.inr h')
    obtain ⟨t, ht, hsign, -, hmagnitude⟩ :=
      firstDecimal?_written (Binary64.shortest_coefficient_pos hx' hm) negative
    have hvalue : t.magnitude = ((Binary64.shortest m e).significand negative).magnitude :=
      (hmagnitude hplace).trans (Decimal.magnitude_significand ..).symm
    have hread : t.nearest = ((Binary64.shortest m e).significand negative).nearest :=
      Decimal.nearest_congr hsign hvalue
    rw [toFloat_of_firstDecimal? (plainText_float _) (toList_written hm.ne' ▸ ht), hread]
    rfl

/-- The number of a value without a decimal in its text is in normal form. -/
theorem normal_floatOf {v : Value} {s : String} {x : Binary64} (hs : v.plainText = .ok s)
    (hfirst : firstDecimal? s.toList = none) (h : floatOf v = .ok x) : x.Normal := by
  cases v with
  | int n =>
    simp only [floatOf] at h
    split_ifs at h
    cases h
    exact Binary64.normal_ofRatio Nat.one_pos _
  | float y =>
    cases h
    cases x with
    | nan => trivial
    | infinite negative => trivial
    | finite negative m e =>
      obtain ⟨c, hc, hdigit⟩ := exists_isDigit_written_finite negative m e
      have hwritten : (Binary64.finite negative m e).written = s := (Value.plainText_ok_iff.1 hs).2
      have hsome := isSome_firstDecimal? (hwritten ▸ hc) hdigit
      rw [hfirst] at hsome
      cases hsome
  | _ =>
    simp only [floatOf, hs, Except.map] at h
    cases h
    split
    · exact Decimal.normal_nearest _
    · trivial

/-- What the filter for decimals finds is a number in normal form. -/
theorem toFloat_ok {v r : Value} (h : toFloat v [] = .ok r) :
    ∃ x : Binary64, r = .float x ∧ x.Normal := by
  cases hs : v.plainText with
  | error f =>
    rw [toFloat_of_plainText_error hs] at h
    cases h
  | ok s =>
    cases hfirst : firstDecimal? s.toList with
    | some d =>
      rw [toFloat_of_firstDecimal? hs hfirst] at h
      cases h
      exact ⟨_, rfl, Decimal.normal_nearest d⟩
    | none =>
      rw [toFloat_of_decimalless hs hfirst] at h
      obtain ⟨x, hx, hr⟩ := Result.map_eq_ok_iff.1 h
      exact ⟨x, hr.symm, normal_floatOf hs hfirst hx⟩

/-- **Coercing to a number again.** The filter for integers finds its own result again, and every
natural number that can be written in itself. What the filter for decimals finds is a number in
normal form, and it is found again exactly if it is not finite, zero, or from `10 ^ -4` up to
`10 ^ 16` in magnitude. In every number, wherever it comes from, the filter finds the number itself
in these cases, and in all others its significand, which is another number. -/
theorem Builtin.outcome_again (v r : Value) :
    ((toInteger.run v []).outcome = .ok r → (toInteger.run r []).outcome = .ok r) ∧
      (∀ n : Nat, n < tenTo Integer.maxDigits →
        (toInteger.run (.int n) []).outcome = .ok (.int n)) ∧
      ((toFloat.run v []).outcome = .ok r →
        ∃ x : Binary64, r = .float x ∧ x.Normal ∧
          ((toFloat.run r []).outcome = .ok r ↔ x.Positional)) ∧
      ∀ x : Binary64, x.Normal →
        (x.Positional → (toFloat.run (.float x) []).outcome = .ok (.float x)) ∧
          (¬x.Positional → x.significand ≠ x ∧
            (toFloat.run (.float x) []).outcome = .ok (.float x.significand)) := by
  refine ⟨toInteger_again, fun n => toInteger_natCast, fun h => ?_, fun x hx =>
    ⟨toFloat_of_positional hx, fun h =>
      ⟨Binary64.significand_ne hx h, toFloat_of_not_positional hx h⟩⟩⟩
  obtain ⟨x, rfl, hx⟩ := toFloat_ok h
  refine ⟨x, rfl, hx, fun hagain => ?_, toFloat_of_positional hx⟩
  by_contra hpositional
  have hsame := hagain.symm.trans (toFloat_of_not_positional hx hpositional)
  rw [Except.ok.injEq, Value.float.injEq] at hsame
  exact Binary64.significand_ne hx hpositional hsame.symm

/-- An amount in front of its unit is found, and found again. A number of seventeen digits is found
in front of its unit, but not in itself. -/
theorem Builtin.outcome_again_amount :
    (toInteger.run (.text "12 kg") []).outcome = .ok (.int 12) ∧
      (toInteger.run (.int 12) []).outcome = .ok (.int 12) ∧
      (toFloat.run (.text "-3.5 kg") []).outcome =
        .ok (.float (.finite true 7881299347898368 (-51))) ∧
      (toFloat.run (.float (.finite true 7881299347898368 (-51))) []).outcome =
        .ok (.float (.finite true 7881299347898368 (-51))) ∧
      (toFloat.run (.text "10000000000000000 kg") []).outcome =
        .ok (.float (.finite false 5000000000000000 1)) ∧
      (toFloat.run (.float (.finite false 5000000000000000 1)) []).outcome ≠
        .ok (.float (.finite false 5000000000000000 1)) := by
  have hint : (toInteger.run (.text "12 kg") []).outcome = .ok (.int 12) := by decide +kernel
  have hfloat : (toFloat.run (.text "-3.5 kg") []).outcome =
      .ok (.float (.finite true 7881299347898368 (-51))) := by decide +kernel
  have hlarge : (toFloat.run (.text "10000000000000000 kg") []).outcome =
      .ok (.float (.finite false 5000000000000000 1)) := by decide +kernel
  obtain ⟨x, hx, -, hagain⟩ := (Builtin.outcome_again _ _).2.2.1 hfloat
  obtain ⟨y, hy, -, hother⟩ := (Builtin.outcome_again _ _).2.2.1 hlarge
  cases hx
  cases hy
  refine ⟨hint, (Builtin.outcome_again _ _).1 hint, hfloat, hagain.2 (.inr ?_), hlarge,
    fun h => ?_⟩
  · norm_num
  · obtain hzero | ⟨-, hbelow⟩ := hother.1 h
    · cases hzero
    · norm_num at hbelow

/-- The first digit alone is found in a number of seventeen digits, which is written with an
exponent. -/
theorem Builtin.outcome_toFloat_exponent :
    (toFloat.run (.text "10000000000000000") []).outcome =
        .ok (.float (.ofInt 10000000000000000)) ∧
      (toFloat.run (.float (.ofInt 10000000000000000)) []).outcome = .ok (.float (.ofInt 1)) ∧
      Binary64.ofInt 10000000000000000 ≠ .ofInt 1 := by
  decide +kernel

end Filter

end Extraction
