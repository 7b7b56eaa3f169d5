import Extraction.Proofs.Filter.Numeric
import Extraction.Proofs.Number.Shortest

/-!
# The decimal in the text of a number

The filter for decimals reads the text of a number from its start. Without an exponent the text is
the shortest decimal of the number, written out, and is read as a whole. With an exponent only the
digits in front of it are read: they are the shortest decimal with the point moved behind its first
digit.

## Main definitions

* `Filter.StartsWith` : the decimal that is read of a text with a sign.

## Main results

* `Decimal.significant_spec` : digits without trailing zeros still have the value of the decimal.
* `Filter.startsWith_positional`, `Filter.startsWith_scientific` : what is read of the two forms.
* `Filter.firstDecimal?_written` : what is read of the text of a number.
-/

namespace Extraction

open Text

namespace Decimal

/-! ### Digits -/

theorem digitsValue_append_singleton (ds : List Char) (c : Char) :
    digitsValue (ds ++ [c]) = digitsValue ds * 10 + (digitValue? c).getD 0 := by
  rw [digitsValue, List.foldl_append]
  rfl

theorem digitsValue_zeros_append (k : Nat) (ds : List Char) :
    digitsValue (List.replicate k '0' ++ ds) = digitsValue ds := by
  induction k with
  | zero => rfl
  | succ k ih => exact ih

theorem digitsValue_append_zeros (ds : List Char) (k : Nat) :
    digitsValue (ds ++ List.replicate k '0') = digitsValue ds * 10 ^ k := by
  induction k with
  | zero => rw [List.replicate_zero, List.append_nil, Nat.pow_zero, Nat.mul_one]
  | succ k ih =>
    have hzero : (digitValue? '0').getD 0 = 0 := by decide
    rw [List.replicate_succ', ← List.append_assoc, digitsValue_append_singleton, ih, hzero,
      Nat.add_zero, Nat.mul_assoc, Nat.pow_succ]

/-- The digits of a natural number have its value. -/
theorem digitsValue_digitChars (n : Nat) : digitsValue (digitChars n) = n := by
  have hdigit : ∀ k < 10, (digitValue? (Nat.digitChar k)).getD 0 = k := by decide
  induction n using Nat.strongRecOn with
  | ind n ih =>
    rcases Nat.lt_or_ge n 10 with hlt | hge
    · rw [digitChars, Nat.toDigits_of_lt_base hlt]
      exact (digitsValue_append_singleton [] _).trans (by rw [hdigit n hlt]; exact Nat.zero_add n)
    · have hprefix : digitsValue (Nat.toDigits 10 (n / 10)) = n / 10 :=
        ih (n / 10) (Nat.div_lt_self (by omega) (by decide))
      rw [digitChars, Nat.toDigits_of_base_le (by decide) hge, digitsValue_append_singleton,
        hprefix, hdigit _ (Nat.mod_lt n (by decide))]
      omega

/-- Digits without trailing zeros still have the value of the decimal, with the same place of the
first digit. -/
theorem significant_spec {d : Decimal} (hd : 0 < d.coefficient) :
    (∀ c ∈ d.significant.1, isDigit c = true) ∧ d.significant.1 ≠ [] ∧
      digitsValue d.significant.1 * 10 ^ (d.place - d.significant.1.length) = d.magnitude := by
  obtain ⟨ds, k, hds, hsplit⟩ : ∃ ds k, d.significant = (ds, d.place) ∧
      digitChars d.coefficient = ds ++ List.replicate k '0' := by
    refine ⟨_, ((digitChars d.coefficient).reverse.takeWhile (· == '0')).length, rfl, ?_⟩
    have hzeros : (digitChars d.coefficient).reverse.takeWhile (· == '0') =
        List.replicate ((digitChars d.coefficient).reverse.takeWhile (· == '0')).length '0' :=
      List.eq_replicate_of_mem fun c hc => by simpa using List.mem_takeWhile_imp hc
    rw [← List.reverse_inj, List.reverse_append, List.reverse_replicate, List.reverse_reverse,
      ← hzeros, List.takeWhile_append_dropWhile]
  have hvalue : d.coefficient = digitsValue ds * 10 ^ k := by
    rw [← digitsValue_append_zeros, ← hsplit, digitsValue_digitChars]
  have hlength : (digitCount d.coefficient : Int) = ds.length + k := by
    rw [digitCount, hsplit, List.length_append, List.length_replicate]
    push_cast
    rfl
  have hpower : d.place - ds.length = d.exponent + k := by
    rw [place, hlength]
    ring
  have hdigits : ∀ c ∈ d.significant.1, isDigit c = true := fun c =>
    Filter.isDigit_of_mem_significant
  rw [hds] at hdigits ⊢
  refine ⟨hdigits, ?_, ?_⟩
  · rintro rfl
    rw [hvalue] at hd
    exact absurd hd (by simp [digitsValue])
  · rw [hpower, magnitude, hvalue, zpow_add₀ (by norm_num), zpow_natCast]
    push_cast
    ring

/-! ### What is read of a text -/

/-- A text with a minus in front of it, or without. -/
def withSign (negative : Bool) (s : List Char) : List Char :=
  if negative then '-' :: s else s

/-- The text of a positive decimal. -/
def written (d : Decimal) : List Char :=
  if -4 < d.place && d.place ≤ 16 then positional d.significant.1 d.place
  else scientific d.significant.1 d.place

end Decimal

namespace Filter

open Decimal (withSign)

section Read

/-- Characters of a kind are read up to what is not of the kind any more. -/
theorem takeWhile_append_of_head {p : Char → Bool} {ds rest : List Char}
    (hds : ∀ c ∈ ds, p c = true) (hrest : ∀ c ∈ rest.head?, p c = false) :
    (ds ++ rest).takeWhile p = ds ∧ (ds ++ rest).dropWhile p = rest := by
  rw [List.takeWhile_append_of_pos hds, List.dropWhile_append_of_pos hds]
  cases rest with
  | nil => exact ⟨List.append_nil ds, rfl⟩
  | cons c rest =>
    have hc : ¬p c = true := by simp [hrest c rfl]
    rw [List.takeWhile_cons_of_neg hc, List.dropWhile_cons_of_neg hc, List.append_nil]
    exact ⟨rfl, rfl⟩

variable {negative : Bool} {whole part rest : List Char} (hwhole : ∀ c ∈ whole, isDigit c = true)
  (hne : whole ≠ []) (hrest : ∀ c ∈ rest.head?, isDigit c = false)

include hwhole hne

theorem readSign_withSign :
    Decimal.readSign (withSign negative (whole ++ rest)) = (negative, whole ++ rest) := by
  obtain ⟨c, ds, rfl⟩ := List.exists_cons_of_ne_nil hne
  cases negative with
  | false => exact readSign_cons_of_digit (hwhole c List.mem_cons_self) _
  | true => rfl

include hrest

/-- Digits without a point are read as an integer. -/
theorem signedDecimal?_whole (hpoint : rest.head? ≠ some '.') :
    signedDecimal? (withSign negative (whole ++ rest)) =
      some ⟨negative, Decimal.digitsValue whole, 0⟩ := by
  obtain ⟨htake, hdrop⟩ := takeWhile_append_of_head hwhole hrest
  unfold signedDecimal?
  simp only [readSign_withSign hwhole hne, htake, hdrop]
  split
  · exact absurd rfl hpoint
  · simp [hne]

/-- Digits with a point among them are read as a whole. -/
theorem signedDecimal?_point (hpart : ∀ c ∈ part, isDigit c = true) :
    signedDecimal? (withSign negative (whole ++ '.' :: (part ++ rest))) =
      some ⟨negative, Decimal.digitsValue (whole ++ part), -(part.length : Int)⟩ := by
  have hpoint : ∀ c ∈ ('.' :: (part ++ rest)).head?, isDigit c = false := by
    rintro c ⟨⟩
    decide
  obtain ⟨htake, hdrop⟩ := takeWhile_append_of_head hwhole hpoint
  obtain ⟨htake', -⟩ := takeWhile_append_of_head hpart hrest
  simp only [signedDecimal?, readSign_withSign hwhole hne, htake, hdrop, htake']
  simp [hne]

end Read

/-- A text starts with a decimal of the given magnitude, whose sign is the one in front of it. -/
def StartsWith (negative : Bool) (s : List Char) (q : ℚ) : Prop :=
  ∃ d, signedDecimal? (withSign negative s) = some d ∧ d.negative = negative ∧ d.magnitude = q

theorem isDigit_of_mem_zeros {k : Nat} {c : Char} (hc : c ∈ List.replicate k '0') :
    isDigit c = true := by
  rw [List.eq_of_mem_replicate hc]
  rfl

section Forms

variable {negative : Bool} {ds : List Char} (hds : ∀ c ∈ ds, isDigit c = true)

include hds

/-- The first digit stands after the point. -/
theorem startsWith_positional_fraction (k : Nat) :
    StartsWith negative (Decimal.positional ds (-k))
      (Decimal.digitsValue ds * 10 ^ (-k - ds.length : Int)) := by
  have htext : Decimal.positional ds (-k) =
      ['0'] ++ '.' :: ((List.replicate k '0' ++ ds) ++ []) := by
    simp [Decimal.positional]
  have hpart : ∀ c ∈ List.replicate k '0' ++ ds, isDigit c = true := fun c hc =>
    (List.mem_append.1 hc).elim isDigit_of_mem_zeros (hds c)
  have hvalue : Decimal.digitsValue (['0'] ++ (List.replicate k '0' ++ ds)) =
      Decimal.digitsValue ds := Decimal.digitsValue_zeros_append (k + 1) ds
  rw [htext]
  refine ⟨_, signedDecimal?_point (by simp; rfl) (by simp) (by simp) hpart, rfl, ?_⟩
  rw [Decimal.magnitude, hvalue, List.length_append, List.length_replicate]
  push_cast
  ring_nf

variable (hne : ds ≠ [])

include hne

/-- The point stands behind all digits. -/
theorem startsWith_positional_integer {n : Nat} (hn : 0 < n) (hlength : ds.length ≤ n) :
    StartsWith negative (Decimal.positional ds n)
      (Decimal.digitsValue ds * 10 ^ (n - ds.length : Int)) := by
  obtain ⟨k, rfl⟩ : ∃ k, n = ds.length + k := ⟨n - ds.length, by omega⟩
  have htext : Decimal.positional ds (ds.length + k : Nat) =
      (ds ++ List.replicate k '0') ++ '.' :: (['0'] ++ []) := by
    have hplace : ¬((ds.length + k : Nat) : Int) ≤ 0 := by omega
    have htake : ds.take (ds.length + k) = ds := List.take_of_length_le (Nat.le_add_right ..)
    have hdrop : ds.drop (ds.length + k) = [] := List.drop_of_length_le (Nat.le_add_right ..)
    simp only [Decimal.positional, if_neg hplace, Int.toNat_natCast, htake, hdrop,
      Nat.add_sub_cancel_left]
    rfl
  have hwhole : ∀ c ∈ ds ++ List.replicate k '0', isDigit c = true := fun c hc =>
    (List.mem_append.1 hc).elim (hds c) isDigit_of_mem_zeros
  have hvalue : Decimal.digitsValue (ds ++ List.replicate k '0' ++ ['0']) =
      Decimal.digitsValue ds * 10 ^ (k + 1) := by
    rw [List.append_assoc, ← List.replicate_succ', Decimal.digitsValue_append_zeros]
  rw [htext]
  refine ⟨_, signedDecimal?_point hwhole (by simp [hne]) (by simp) (by simp; rfl), rfl, ?_⟩
  rw [Decimal.magnitude, hvalue, pow_succ]
  push_cast
  rw [add_sub_cancel_left, zpow_natCast, zpow_neg, List.length_singleton, Nat.cast_one, zpow_one]
  ring

/-- The point stands among the digits. -/
theorem startsWith_positional_mixed {n : Nat} (hn : 0 < n) (hlength : n < ds.length) :
    StartsWith negative (Decimal.positional ds n)
      (Decimal.digitsValue ds * 10 ^ (n - ds.length : Int)) := by
  have htext : Decimal.positional ds n = ds.take n ++ '.' :: (ds.drop n ++ []) := by
    simp [Decimal.positional, hn.ne', Nat.sub_eq_zero_of_le hlength.le, not_le.2 hlength]
  have htake : ds.take n ≠ [] := by
    simp [hn.ne', hne]
  rw [htext]
  refine ⟨_, signedDecimal?_point (fun c hc => hds c (List.mem_of_mem_take hc)) htake
    (by simp) fun c hc => hds c (List.mem_of_mem_drop hc), rfl, ?_⟩
  rw [Decimal.magnitude, List.take_append_drop, List.length_drop, Nat.cast_sub hlength.le, neg_sub]

/-- The positional form of digits is read as a whole. -/
theorem startsWith_positional (place : Int) :
    StartsWith negative (Decimal.positional ds place)
      (Decimal.digitsValue ds * 10 ^ (place - ds.length)) := by
  rcases lt_or_ge 0 place with hplace | hplace
  · obtain ⟨n, rfl⟩ : ∃ n : Nat, place = n := ⟨place.toNat, by omega⟩
    rcases Nat.lt_or_ge n ds.length with hlong | hshort
    · exact startsWith_positional_mixed hds hne (by omega) hlong
    · exact startsWith_positional_integer hds hne (by omega) hshort
  · obtain ⟨k, rfl⟩ : ∃ k : Nat, place = -k := ⟨(-place).toNat, by omega⟩
    exact startsWith_positional_fraction hds k

/-- The form with an exponent is read up to the exponent. -/
theorem startsWith_scientific (place : Int) :
    StartsWith negative (Decimal.scientific ds place)
      (Decimal.digitsValue ds * 10 ^ (1 - ds.length : Int)) := by
  obtain ⟨c, rest, rfl⟩ := List.exists_cons_of_ne_nil hne
  cases rest with
  | nil =>
    obtain ⟨after, htext⟩ : ∃ after, Decimal.scientific [c] place = [c] ++ 'e' :: after := ⟨_, rfl⟩
    rw [htext]
    refine ⟨_, signedDecimal?_whole hds hne (by simp; rfl) (by simp), rfl, ?_⟩
    simp [Decimal.magnitude]
  | cons c' rest =>
    obtain ⟨after, htext⟩ : ∃ after, Decimal.scientific (c :: c' :: rest) place =
        [c] ++ '.' :: (c' :: rest ++ 'e' :: after) := ⟨_, rfl⟩
    have hhead : ∀ d ∈ [c], isDigit d = true := by simpa using hds c List.mem_cons_self
    rw [htext]
    refine ⟨_, signedDecimal?_point hhead (by simp) (by simp; rfl)
      fun d hd => hds d (List.mem_cons_of_mem c hd), rfl, ?_⟩
    simp [Decimal.magnitude]

end Forms

theorem firstDecimal?_of_signedDecimal? {s : List Char} {d : Decimal}
    (h : signedDecimal? s = some d) : firstDecimal? s = some d := by
  cases s with
  | nil => cases h
  | cons c s => rw [firstDecimal?, h]

/-- What is read of the text of a decimal: the decimal, or in front of an exponent the decimal with
the point behind its first digit. -/
theorem firstDecimal?_written {d : Decimal} (hd : 0 < d.coefficient) (negative : Bool) :
    ∃ t, firstDecimal? (withSign negative d.written) = some t ∧ t.negative = negative ∧
      (-4 < d.place ∧ d.place ≤ 16 → t.magnitude = d.magnitude) ∧
      (¬(-4 < d.place ∧ d.place ≤ 16) → t.magnitude = d.magnitude * 10 ^ (1 - d.place)) := by
  obtain ⟨hds, hne, hvalue⟩ := Decimal.significant_spec hd
  by_cases hplace : -4 < d.place ∧ d.place ≤ 16
  · have htext : d.written = Decimal.positional d.significant.1 d.place := by
      simp [Decimal.written, hplace]
    obtain ⟨t, ht, hsign, hmagnitude⟩ := startsWith_positional hds hne d.place
    rw [htext]
    exact ⟨t, firstDecimal?_of_signedDecimal? ht, hsign, fun _ => hmagnitude.trans hvalue,
      fun h => absurd hplace h⟩
  · have htext : d.written = Decimal.scientific d.significant.1 d.place := by
      have hplace' : ¬(-4 < d.place && d.place ≤ 16) = true := by simpa using hplace
      rw [Decimal.written, if_neg hplace']
    obtain ⟨t, ht, hsign, hmagnitude⟩ := startsWith_scientific hds hne d.place
    rw [htext]
    refine ⟨t, firstDecimal?_of_signedDecimal? ht, hsign, fun h => absurd h hplace, fun _ => ?_⟩
    rw [hmagnitude, ← hvalue, mul_assoc, ← zpow_add₀ (by norm_num)]
    congr 2
    ring

/-- The text of a finite number other than zero is that of its shortest decimal. -/
theorem toList_written {negative : Bool} {m : Nat} {e : Int} (hm : m ≠ 0) :
    (Binary64.finite negative m e).written.toList =
      withSign negative (Binary64.shortest m e).written := by
  simp only [Binary64.written, hm, String.toList_ofList]
  rfl

end Filter

end Extraction
