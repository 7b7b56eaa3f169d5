import Extraction.Proofs.Filter.Leading
import Extraction.Proofs.Filter.Numerals
import Extraction.Proofs.Number.Whole

/-!
# Sizes in bits

A unit with a small b counts bits, so that eight of it should be one of the unit with a large B. The
bytes of a kilobit and of a megabit are an eighth of those of a kilobyte and a megabyte. The bytes
of the larger bit units are fixed with four digits, all of them too small by at least the
`2 ^ 14`th part. No rounding makes up for so much: such an amount in bits is fewer bytes than the
same amount in bytes, unless it is zero.

Amounts are read as double-precision numbers, multiplied by the bytes of the unit and rounded half
up. A product that is a whole number with at most 52 binary digits before its zeros comes through
all of this unchanged, so the bytes of byte units are exact.

## Main definitions

* `Filter.UnitPrefix` : the prefixes that units of bits and of bytes have in common.

## Main results

* `Filter.outcome_size_digits` : a whole amount and a unit are rounded from their exact product.
* `Filter.roundHalfUp_whole`, `Filter.exists_roundHalfUp_lt` : how products are rounded.
* `Filter.UnitPrefix.exists_unitRatio?_bits` : how far the bytes of a bit unit are from an eighth.
* `Filter.Builtin.run_size_bits` : eight times as many bits, and the bytes that they should be.
-/

namespace Extraction.Filter

open Text

/-! ### Reading an amount and a unit -/

section Reading

variable {ds : List Char} (hds : ∀ c ∈ ds, isAsciiDigit c = true)

include hds

theorem isAmountChar_of_isAsciiDigit : ∀ c ∈ ds, isAmountChar c = true := fun c hc => by
  rw [isAmountChar, hds c hc, Bool.true_or, Bool.true_or]

/-- An amount with a unit right behind it. -/
theorem sizeParts?_append_unit {unit : List Char} (hne : ds ≠ [])
    (hunit : ∀ c ∈ unit, isWord c = true)
    (hhead : ∀ c ∈ unit.head?, isAmountChar c = false ∧ isBlank c = false) :
    sizeParts? (ds ++ unit) = some ⟨ds, unit⟩ := by
  have hamount := isAmountChar_of_isAsciiDigit hds
  obtain ⟨htake, hdrop⟩ := takeWhile_append_of_head hamount fun c hc => (hhead c hc).1
  obtain ⟨c, rest, rfl⟩ := List.exists_cons_of_ne_nil hne
  have hc : isAmountChar c = true := hamount c List.mem_cons_self
  have hbreak : c ≠ '\n' := by
    rintro rfl
    exact absurd hc (by decide)
  have hstart : (c :: (rest ++ unit)).dropWhile (fun c => !isAmountChar c && c ≠ '\n') =
      c :: (rest ++ unit) := List.dropWhile_cons_of_neg (by simp [hc])
  have hblank : unit.dropWhile isBlank = unit := by
    cases unit with
    | nil => rfl
    | cons d unit => exact List.dropWhile_cons_of_neg (by simp [(hhead d rfl).2])
  rw [List.cons_append] at htake hdrop ⊢
  rw [sizeParts?, hstart]
  simp only [if_neg hbreak, htake, hdrop, hblank, List.takeWhile_eq_self_iff.2 hunit]

end Reading

theorem isAsciiDigit_of_mem_digitChars {n : Nat} {c : Char} (hc : c ∈ Decimal.digitChars n) :
    isAsciiDigit c = true := by
  have hascii := Nat.isDigit_of_mem_toDigits (Nat.succ_pos 9) (Nat.le_refl 10) hc
  rw [Char.isDigit, Bool.and_eq_true, decide_eq_true_eq, decide_eq_true_eq] at hascii
  rw [isAsciiDigit, Bool.and_eq_true, decide_eq_true_eq, decide_eq_true_eq]
  exact hascii

/-- The digits of a natural number are read as the number nearest to it. -/
theorem amount?_digitChars {n : Nat} (hn : n < Binary64.overflowBound) :
    amount? (Decimal.digitChars n) = some (.ofRatio false n 1) := by
  have hds : ∀ c ∈ Decimal.digitChars n, isDigit c = true := fun c hc => isDigit_of_mem_toDigits hc
  have hne : Decimal.digitChars n ≠ [] := Nat.toDigits_ne_nil
  have hcomma : ∀ c ∈ Decimal.digitChars n, decide (c ≠ ',') = true := fun c hc => by
    refine decide_eq_true ?_
    rintro rfl
    exact absurd (hds ',' hc) (by decide)
  have hread : Decimal.read? (Decimal.digitChars n) = some ⟨false, n, 0⟩ := by
    have htake := List.takeWhile_eq_self_iff.2 hds
    have hdrop := List.dropWhile_eq_nil_iff.2 hds
    simp [Decimal.read?, Decimal.readLead?, Decimal.readExponent?, readSign_of_digits hds, htake,
      hdrop, hne, Decimal.digitsValue_digitChars]
  have hnearest : (⟨false, n, 0⟩ : Decimal).nearest = .ofRatio false n 1 :=
    Decimal.nearest_eq_ofRatio _ Nat.one_pos (by simp [Decimal.magnitude])
  have hfinite : (Binary64.ofRatio false n 1).isFinite = true :=
    (Binary64.isFinite_ofRatio_iff Nat.one_pos false).2 (by omega)
  simp only [amount?, List.takeWhile_eq_self_iff.2 hcomma, List.dropWhile_eq_nil_iff.2 hcomma,
    List.append_nil, Binary64.read?, hread, Option.map_some, hnearest, hfinite, if_true]

theorem amountsTo_ofRatio_of_isExact {num den : Nat} (h : isExact num den = true) (hden : 0 < den) :
    (Binary64.ofRatio false num den).AmountsTo (num / den) := by
  obtain ⟨t, m, e, hratio, hvalue⟩ := exists_of_isExact h
  have hfinite : (Binary64.ofRatio false num den).isFinite = true := by
    rw [hratio]
    rfl
  obtain ⟨q, m', e', hx, rfl⟩ := Binary64.exists_amountsTo_ofRatio hfinite
  obtain ⟨rfl, rfl, rfl⟩ := Binary64.finite.inj (hratio.symm.trans hx)
  refine ⟨m, e, hx, ?_⟩
  have hpos : (0 : ℚ) < (Binary64.magnitude m e).2 :=
    Nat.cast_pos.2 (Binary64.magnitude_den_pos m e)
  rw [← Binary64.magnitude_ratio, div_eq_div_iff hpos.ne' (Nat.cast_pos.2 hden).ne']
  exact_mod_cast hvalue

/-- A whole amount with at most 53 binary digits and a unit are rounded from their exact product. -/
theorem outcome_size_digits {n k : Nat} {unit : List Char} (hn : n < 2 ^ 53)
    (hunit : ∀ c ∈ unit, isWord c = true)
    (hhead : ∀ c ∈ unit.head?, isAmountChar c = false ∧ isBlank c = false)
    (hdigits : unit.any isDigitLike = false)
    (hratio : unitRatio? (String.ofList unit) = some (k, 1)) :
    (size (.text (toString n ++ String.ofList unit))).outcome =
      roundHalfUp (.ofRatio false (n * k) 1) := by
  have htext : (toString n ++ String.ofList unit).toList = Decimal.digitChars n ++ unit := by
    rw [String.toList_append, String.toList_ofList, Nat.toString_eq_repr,
      Nat.repr_eq_ofList_toDigits, String.toList_ofList, Decimal.digitChars]
  have hparts : sizeParts? (toString n ++ String.ofList unit).toList =
      some ⟨Decimal.digitChars n, unit⟩ := by
    rw [htext]
    exact sizeParts?_append_unit (fun c => isAsciiDigit_of_mem_digitChars) Nat.toDigits_ne_nil hunit
      hhead
  have hbound : n < Binary64.overflowBound :=
    hn.trans (Binary64.two_pow_lt_overflowBound (by decide))
  have hfactor : unitFactor? (String.ofList unit) = some (.ofRatio false k 1) := by
    rw [unitFactor?, hratio]
    rfl
  obtain ⟨hexact, hpos⟩ := isExact_of_unitRatio? _ _ hratio
  have hamount : (Binary64.ofRatio false n 1).AmountsTo (n / (1 : Nat)) :=
    Binary64.amountsTo_ofRatio (j := n) (f := 0) Nat.one_pos (by simp) hn (by decide) (by decide)
  have hproduct : (Binary64.ofRatio false n 1).mul (.ofRatio false k 1) =
      .ofRatio false (n * k) 1 :=
    hamount.mul (amountsTo_ofRatio_of_isExact hexact hpos) Nat.one_pos (by push_cast; ring)
  rw [outcome_size hparts (amount?_digitChars hbound) hdigits hfactor, hproduct]

/-! ### Rounding to whole bytes -/

theorem roundHalfUp_of_amountsTo {x : Binary64} {p q : ℚ} {num den : Nat} (hx : x.AmountsTo p)
    (hden : 0 < den) (h : (num : ℚ) / den = p + 1 / 2)
    (hq : (Binary64.ofRatio false num den).AmountsTo q) : roundHalfUp x = .ok (.int ⌊q⌋) := by
  rw [roundHalfUp, hx.add Binary64.amountsTo_half hden h, hq.floor?]

/-- A whole number with at most 52 binary digits before its zeros is not changed. -/
theorem roundHalfUp_whole {j f : Nat} (hj : j < 2 ^ 52) (hf : (f : Int) ≤ Binary64.maxExponent) :
    roundHalfUp (.ofRatio false (j * 2 ^ f) 1) = .ok (.int (j * 2 ^ f : Nat)) := by
  have hvalue : ((j * 2 ^ f : Nat) : ℚ) / (1 : Nat) = j * 2 ^ (f : Int) := by
    rw [Nat.cast_one, div_one, Nat.cast_mul, Nat.cast_pow, Nat.cast_ofNat, zpow_natCast]
  have hmin : Binary64.minExponent ≤ f := (show Binary64.minExponent ≤ 0 by decide).trans (by omega)
  have hx := Binary64.amountsTo_ofRatio Nat.one_pos hvalue (by omega) hmin hf
  obtain ⟨q, hq, hfloor⟩ := Binary64.exists_amountsTo_half hj hf
  have hsum : ((2 * (j * 2 ^ f) + 1 : Nat) : ℚ) / (2 : Nat) =
      ((j * 2 ^ f : Nat) : ℚ) / (1 : Nat) + 1 / 2 := by
    push_cast
    ring
  rw [roundHalfUp_of_amountsTo hx two_pos hsum hq, hfloor]

/-- A product that is too small by the `2 ^ 14`th part is too small after the rounding, too. -/
theorem exists_roundHalfUp_lt {k n : Nat} (hk : 0 < k) (hless : 2 ^ 14 * k + n ≤ 2 ^ 14 * n)
    (hn : 2 ^ 30 ≤ n) (hbound : k < Binary64.overflowBound) :
    ∃ b : Int, roundHalfUp (.ofRatio false k 1) = .ok (.int b) ∧ b < n := by
  have hfinite : (Binary64.ofRatio false k 1).isFinite = true :=
    (Binary64.isFinite_ofRatio_iff Nat.one_pos false).2 (by omega)
  obtain ⟨p, hp⟩ := Binary64.exists_amountsTo_ofRatio hfinite
  have hp0 : 0 ≤ p := hp.nonneg
  obtain ⟨num, den, hden, hsum⟩ := Binary64.exists_ratio_eq (show 0 ≤ p + 1 / 2 by linarith)
  have hfinite' := Binary64.isFinite_add_half (Binary64.inRange_ofRatio false k 1)
  rw [hfinite, hp.add Binary64.amountsTo_half hden hsum] at hfinite'
  obtain ⟨q, hq⟩ := Binary64.exists_amountsTo_ofRatio hfinite'
  refine ⟨⌊q⌋, roundHalfUp_of_amountsTo hp hden hsum hq, Int.floor_lt.2 ?_⟩
  -- Both roundings together add far less than the `2 ^ 14`th part.
  have hk' : (1 : ℚ) ≤ k := Nat.one_le_cast.2 hk
  have hproduct := Binary64.amountsTo_ofRatio_le Nat.one_pos hp (by rw [Nat.cast_one]; linarith)
  have hrounded := Binary64.amountsTo_ofRatio_le hden hq (by linarith)
  have hless' : (2 ^ 14 : ℚ) * k + n ≤ 2 ^ 14 * n := by exact_mod_cast hless
  have hn' : (2 ^ 30 : ℚ) ≤ n := by exact_mod_cast hn
  rw [hsum] at hrounded
  rw [Nat.cast_one, div_one] at hproduct
  push_cast
  linarith

/-! ### Prefixes -/

/-- The prefixes that units of bits and of bytes have in common. -/
inductive UnitPrefix where
  | kilo
  | mega
  | giga
  | tera
  | peta
  | exa
  deriving DecidableEq, Repr

namespace UnitPrefix

/-- The letter of a prefix. -/
def letter : UnitPrefix → Char
  | kilo => 'K'
  | mega => 'M'
  | giga => 'G'
  | tera => 'T'
  | peta => 'P'
  | exa => 'E'

/-- The power of two that a prefix stands for. -/
def power : UnitPrefix → Nat
  | kilo => 10
  | mega => 20
  | giga => 30
  | tera => 40
  | peta => 50
  | exa => 60

/-- The bit unit of a prefix. -/
def bits (u : UnitPrefix) : String :=
  String.ofList [u.letter, 'b']

/-- The byte unit of a prefix. -/
def bytes (u : UnitPrefix) : String :=
  String.ofList [u.letter, 'B']

theorem letter_spec (u : UnitPrefix) : isWord u.letter = true ∧ isDigitLike u.letter = false ∧
    isAmountChar u.letter = false ∧ isBlank u.letter = false := by
  cases u <;> decide +kernel

theorem power_le (u : UnitPrefix) : u.power ≤ 60 := by
  cases u <;> decide

theorem power_le_maxExponent (u : UnitPrefix) : (u.power : Int) ≤ Binary64.maxExponent :=
  (Int.ofNat_le.2 u.power_le).trans (by decide)

theorem unitRatio?_bytes (u : UnitPrefix) : unitRatio? u.bytes = some (2 ^ u.power, 1) := by
  cases u <;> decide +kernel

/-- The bytes of a bit unit: an eighth of those of the byte unit, or less by at least the
`2 ^ 14`th part. -/
theorem exists_unitRatio?_bits (u : UnitPrefix) :
    ∃ k, 0 < k ∧ unitRatio? u.bits = some (k, 1) ∧
      if u = kilo ∨ u = mega then 8 * k = 2 ^ u.power
      else 2 ^ 14 * (8 * k) + 2 ^ u.power ≤ 2 ^ 14 * 2 ^ u.power ∧ 30 ≤ u.power := by
  cases u with
  | kilo => exact ⟨128, by decide +kernel⟩
  | mega => exact ⟨131072, by decide +kernel⟩
  | giga => exact ⟨134200000, by decide +kernel⟩
  | tera => exact ⟨137400000000, by decide +kernel⟩
  | peta => exact ⟨140700000000000, by decide +kernel⟩
  | exa => exact ⟨144100000000000000, by decide +kernel⟩

/-- A whole amount of a unit with a prefix is rounded from the exact product. -/
theorem outcome_size (u : UnitPrefix) {n k : Nat} {b : Char} (hn : n < 2 ^ 53)
    (hb : isWord b = true ∧ isDigitLike b = false)
    (hratio : unitRatio? (String.ofList [u.letter, b]) = some (k, 1)) :
    (size (.text (toString n ++ String.ofList [u.letter, b]))).outcome =
      roundHalfUp (.ofRatio false (n * k) 1) := by
  obtain ⟨hword, hdigit, hamount, hblank⟩ := u.letter_spec
  refine outcome_size_digits hn ?_ ?_ ?_ hratio
  · simp [hword, hb.1]
  · simp [hamount, hblank]
  · simp [hdigit, hb.2]

/-- A whole amount of bytes is exact. -/
theorem outcome_size_bytes (u : UnitPrefix) {n : Nat} (hn : n < 2 ^ 52) :
    (size (.text (toString n ++ u.bytes))).outcome = .ok (.int (n * 2 ^ u.power : Nat)) := by
  rw [bytes, u.outcome_size (by omega) (by decide +kernel) u.unitRatio?_bytes]
  exact roundHalfUp_whole hn u.power_le_maxExponent

theorem mul_two_pow_power_lt (u : UnitPrefix) {n : Nat} (hn : n < 2 ^ 53) :
    n * 2 ^ u.power < Binary64.overflowBound := by
  have hpower : 2 ^ u.power ≤ 2 ^ 60 := Nat.pow_le_pow_right two_pos u.power_le
  calc n * 2 ^ u.power < 2 ^ 53 * 2 ^ 60 :=
        Nat.mul_lt_mul_of_lt_of_le hn hpower (Nat.two_pow_pos 60)
    _ = 2 ^ 113 := (pow_add 2 53 60).symm
    _ < Binary64.overflowBound := Binary64.two_pow_lt_overflowBound (by decide)

/-- Eight times as many bits are as many bytes as they should be, or fewer. -/
theorem exists_outcome_size_bits (u : UnitPrefix) {n : Nat} (hn : 8 * n < 2 ^ 53) :
    ∃ b : Int, (size (.text (toString (8 * n) ++ u.bits))).outcome = .ok (.int b) ∧
      if n = 0 ∨ u = kilo ∨ u = mega then b = (n * 2 ^ u.power : Nat)
      else b < (n * 2 ^ u.power : Nat) := by
  obtain ⟨k, hk, hratio, hbytes⟩ := u.exists_unitRatio?_bits
  have hround := u.outcome_size hn (b := 'b') (by decide +kernel) hratio
  rw [bits, hround]
  by_cases hexact : n = 0 ∨ u = kilo ∨ u = mega
  · have hproduct : 8 * n * k = n * 2 ^ u.power := by
      rcases hexact with rfl | hu
      · rw [Nat.mul_zero, Nat.zero_mul, Nat.zero_mul]
      · rw [if_pos hu] at hbytes
        rw [← hbytes]
        ring
    rw [hproduct]
    exact ⟨_, roundHalfUp_whole (by omega) u.power_le_maxExponent, by rw [if_pos hexact]⟩
  · obtain ⟨hn0, hu⟩ := not_or.1 hexact
    rw [if_neg hu] at hbytes
    obtain ⟨hless, hpower⟩ := hbytes
    have hpos : 0 < 8 * n * k := Nat.mul_pos (by omega) hk
    have hless' : 2 ^ 14 * (8 * n * k) + n * 2 ^ u.power ≤ 2 ^ 14 * (n * 2 ^ u.power) :=
      calc 2 ^ 14 * (8 * n * k) + n * 2 ^ u.power
          = n * (2 ^ 14 * (8 * k) + 2 ^ u.power) := by ring
        _ ≤ n * (2 ^ 14 * 2 ^ u.power) := Nat.mul_le_mul_left n hless
        _ = 2 ^ 14 * (n * 2 ^ u.power) := Nat.mul_left_comm ..
    have hlarge : 2 ^ 30 ≤ n * 2 ^ u.power :=
      (Nat.pow_le_pow_right two_pos hpower).trans (Nat.le_mul_of_pos_left _ (by omega))
    have hbound := u.mul_two_pow_power_lt (show n < 2 ^ 53 by omega)
    obtain ⟨b, hb, hlt⟩ := exists_roundHalfUp_lt hpos hless' hlarge (by omega)
    exact ⟨b, hb, by rwa [if_neg hexact]⟩

end UnitPrefix

/-- **Eight times as many bits are as many bytes only for kilo and mega.** Take a natural number `n`
such that `8 * n` is below `2 ^ 53`, and a prefix of units. Both `8 * n` with the bit unit of the
prefix and `n` with its byte unit are sizes, without a notice. The size in bytes is exact. The size
in bits is never more, and it is the same exactly if the number is zero or the prefix is kilo or
mega. -/
theorem Builtin.run_size_bits (n : Nat) (u : UnitPrefix) (hn : 8 * n < 2 ^ 53) :
    ∃ b : Int, Builtin.size.run (.text (toString (8 * n) ++ u.bits)) [] = .ok (.int b) ∧
      Builtin.size.run (.text (toString n ++ u.bytes)) [] = .ok (.int (n * 2 ^ u.power)) ∧
      b ≤ n * 2 ^ u.power ∧ (b = n * 2 ^ u.power ↔ n = 0 ∨ u = .kilo ∨ u = .mega) := by
  obtain ⟨b, hbits, hb⟩ := u.exists_outcome_size_bits hn
  have hbytes := u.outcome_size_bytes (show n < 2 ^ 52 by omega)
  push_cast at hb hbytes
  refine ⟨b, size_of_outcome hbits, size_of_outcome hbytes, ?_⟩
  split_ifs at hb with hexact
  · exact ⟨hb.le, iff_of_true hb hexact⟩
  · exact ⟨hb.le, iff_of_false hb.ne hexact⟩

/-- A terabyte in bits, and the greatest amount of kilobits. -/
theorem Builtin.run_size_bits_terabits :
    (∃ b : Int, Builtin.size.run (.text (toString 8 ++ UnitPrefix.tera.bits)) [] = .ok (.int b) ∧
      b < 1099511627776) ∧
    Builtin.size.run (.text (toString 9007199254740984 ++ UnitPrefix.kilo.bits)) [] =
      .ok (.int 1152921504606845952) := by
  obtain ⟨b, hb, -, hle, hiff⟩ := Builtin.run_size_bits 1 .tera (by decide)
  obtain ⟨c, hc, -, -, hexact⟩ := Builtin.run_size_bits 1125899906842623 .kilo (by decide)
  have hne : b ≠ 1 * 2 ^ UnitPrefix.tera.power := fun h => absurd (hiff.1 h) (by decide)
  have hsame := hexact.2 (.inr (.inl rfl))
  refine ⟨⟨b, hb, lt_of_le_of_ne hle hne⟩, ?_⟩
  rw [hsame] at hc
  exact hc

/-- Eight gigabits are 141824 bytes fewer than a gigabyte. -/
theorem Builtin.run_size_gigabits :
    Builtin.size.run (.text "8Gb") [] = .ok (.int 1073600000) ∧
      Builtin.size.run (.text "1GB") [] = .ok (.int 1073741824) := by
  have hbits : (Builtin.size.run (.text "8Gb") []).outcome = .ok (.int 1073600000) := by
    decide +kernel
  have hbytes : (Builtin.size.run (.text "1GB") []).outcome = .ok (.int 1073741824) := by
    decide +kernel
  exact ⟨size_of_outcome hbits, size_of_outcome hbytes⟩

end Extraction.Filter
