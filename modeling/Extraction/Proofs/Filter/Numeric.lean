import Extraction.Filter.Numeric
import Extraction.Proofs.Evaluation.Result
import Extraction.Proofs.Number.Overflow
import Extraction.Proofs.Text.Trim
import Extraction.Proofs.Value.Unwritten

/-!
# What the filters of numbers find and fail on

Without arguments, the filters of numbers find what stands first in the plain text of a value. They
fail only on a value without a plain text, on a run of too many digits and on an integer beyond the
range. What else they fall back to when they find no numeral would fail on an integer alone, and the
plain text of an integer always has a digit, as that of a finite number has.

## Main results

* `Filter.read_of_digits`, `Filter.leadingInteger_of_digits` : a run of digits is an integer unless
  there are too many.
* `Filter.toInteger_nil_of_plainText`, `Filter.toFloat_of_firstDecimal?` : what is found in the plain
  text of a value.
* `Filter.toInteger_nil_error_iff`, `Filter.toFloat_nil_error_iff`, `Filter.number_nil_error_iff` :
  when the three filters fail.
-/

namespace Extraction.Filter

open Text

/-! ### Runs of digits -/

theorem isBlank_of_isDigit {c : Char} (hc : isDigit c = true) : isBlank c = false := by
  cases hblank : isBlank c with
  | false => rfl
  | true =>
    have hcodes : ∀ n ∈ blankCodes, (digitValueIn digitZeros n).isSome = false := by decide
    rw [isDigit, digitValue?, hcodes c.toNat (mem_blankCodes hblank)] at hc
    cases hc

theorem isDigit_of_mem_firstDigits {s : List Char} {c : Char} (hc : c ∈ firstDigits s) :
    isDigit c = true :=
  List.mem_takeWhile_imp hc

theorem firstDigits_ne_nil {s : List Char} {c : Char} (hc : c ∈ s) (hdigit : isDigit c = true) :
    firstDigits s ≠ [] := by
  induction s with
  | nil => cases hc
  | cons d s ih =>
    rw [firstDigits]
    cases hd : isDigit d with
    | true =>
      rw [List.dropWhile_cons_of_neg (by simp [hd]), List.takeWhile_cons_of_pos hd]
      exact List.cons_ne_nil _ _
    | false =>
      rw [List.dropWhile_cons_of_pos (by simp [hd])]
      refine ih ((List.mem_cons.1 hc).resolve_left ?_)
      rintro rfl
      rw [hd] at hdigit
      cases hdigit

theorem isDigit_of_mem_toDigits {n : Nat} {c : Char} (hc : c ∈ Nat.toDigits 10 n) :
    isDigit c = true := by
  have hascii := Nat.isDigit_of_mem_toDigits (Nat.succ_pos 9) (Nat.le_refl 10) hc
  rw [Char.isDigit, Bool.and_eq_true, decide_eq_true_eq, decide_eq_true_eq] at hascii
  have hlow : ¬c.toNat < 0x30 := Nat.not_lt.2 hascii.1
  have hhigh : c.toNat < 0x30 + 10 := Nat.lt_succ_of_le hascii.2
  rw [isDigit, digitValue?, digitZeros, digitValueIn, if_neg hlow, if_pos hhigh]
  rfl

/-- The text of an integer has a digit. -/
theorem exists_isDigit_written_int (n : Int) :
    ∃ c ∈ (Value.int n).written.toList, isDigit c = true := by
  have hdigit (m : Nat) : ∃ c ∈ m.repr.toList, isDigit c = true := by
    obtain ⟨c, ds, hds⟩ := List.exists_cons_of_ne_nil (Nat.toDigits_ne_nil (n := m) (b := 10))
    have hc : c ∈ Nat.toDigits 10 m := hds ▸ List.mem_cons_self
    exact ⟨c, by rwa [Nat.repr_eq_ofList_toDigits, String.toList_ofList],
      isDigit_of_mem_toDigits hc⟩
  cases n with
  | ofNat m => exact hdigit m
  | negSucc m =>
    obtain ⟨c, hc, hd⟩ := hdigit (m + 1)
    have htext : (Value.int (Int.negSucc m)).written = "-" ++ (m + 1).repr := rfl
    exact ⟨c, by rw [htext, String.toList_append]; exact List.mem_append_right _ hc, hd⟩

theorem readSign_cons_of_digit {c : Char} (hc : isDigit c = true) (s : List Char) :
    Decimal.readSign (c :: s) = (false, c :: s) := by
  unfold Decimal.readSign
  split
  · rename_i h
    rw [(List.cons.inj h).1] at hc
    exact absurd hc (by decide)
  · rename_i h
    rw [(List.cons.inj h).1] at hc
    exact absurd hc (by decide)
  · rfl

theorem isDigit_of_mem_significant {d : Decimal} {c : Char} (hc : c ∈ d.significant.1) :
    isDigit c = true := by
  have hsuffix := List.dropWhile_suffix (l := (Decimal.digitChars d.coefficient).reverse) (· == '0')
  exact isDigit_of_mem_toDigits (List.mem_reverse.1 (hsuffix.subset (List.mem_reverse.1 hc)))

theorem exists_isDigit_positional {ds : List Char} (hds : ∀ c ∈ ds, isDigit c = true)
    (place : Int) : ∃ c ∈ Decimal.positional ds place, isDigit c = true := by
  unfold Decimal.positional
  split_ifs
  · exact ⟨'0', List.mem_cons_self, rfl⟩
  · cases hpart : ds.drop place.toNat with
    | nil => exact ⟨'0', by simp [hpart], rfl⟩
    | cons c rest =>
      have hc : c ∈ ds.drop place.toNat := hpart ▸ List.mem_cons_self
      exact ⟨c, by simp [hpart], hds c (List.mem_of_mem_drop hc)⟩

theorem exists_isDigit_scientific (ds : List Char) (place : Int) :
    ∃ c ∈ Decimal.scientific ds place, isDigit c = true := by
  obtain ⟨c, hc⟩ :=
    List.exists_mem_of_ne_nil _ (Nat.toDigits_ne_nil (n := (place - 1).natAbs) (b := 10))
  exact ⟨c, by simp [Decimal.scientific, Decimal.digitChars, hc], isDigit_of_mem_toDigits hc⟩

/-- The text of a finite number has a digit. -/
theorem exists_isDigit_written_finite (negative : Bool) (m : Nat) (e : Int) :
    ∃ c ∈ (Binary64.finite negative m e).written.toList, isDigit c = true := by
  have hsign (s : List Char) (h : ∃ c ∈ s, isDigit c = true) :
      ∃ c ∈ (String.ofList (if negative then '-' :: s else s)).toList, isDigit c = true := by
    obtain ⟨c, hc, hdigit⟩ := h
    refine ⟨c, ?_, hdigit⟩
    rw [String.toList_ofList]
    split_ifs
    · exact List.mem_cons_of_mem _ hc
    · exact hc
  refine hsign _ ?_
  split_ifs with hm
  · exact ⟨'0', List.mem_cons_self, rfl⟩
  · obtain ⟨num, den⟩ := Binary64.magnitude m e
    let d := Decimal.shortest (.finite false m e) num den
    change ∃ c ∈ (if -4 < d.significant.2 && d.significant.2 ≤ 16 then
      Decimal.positional d.significant.1 d.significant.2
      else Decimal.scientific d.significant.1 d.significant.2), _
    split_ifs
    · exact exists_isDigit_positional (fun c => isDigit_of_mem_significant) _
    · exact exists_isDigit_scientific ..

section Run

variable {ds : List Char} (hds : ∀ c ∈ ds, isDigit c = true)

include hds

theorem readSign_of_digits : Decimal.readSign ds = (false, ds) := by
  cases ds with
  | nil => rfl
  | cons c ds => exact readSign_cons_of_digit (hds c List.mem_cons_self) ds

theorem isDigitRun_of_digits (hne : ds ≠ []) : Integer.isDigitRun ds = true := by
  induction ds with
  | nil => exact absurd rfl hne
  | cons c ds ih =>
    have hc := hds c List.mem_cons_self
    cases ds with
    | nil => exact hc
    | cons d ds =>
      have hd : d ≠ '_' := by
        rintro rfl
        exact absurd (hds '_' (by simp)) (by decide)
      have hrest := ih (fun e he => hds e (List.mem_cons_of_mem c he)) (List.cons_ne_nil d ds)
      simp [Integer.isDigitRun, hc, hd, hrest]

theorem dropWhile_isMargin_of_digits : ds.dropWhile Integer.isMargin = ds := by
  cases ds with
  | nil => rfl
  | cons c ds =>
    have hc := isBlank_of_isDigit (hds c List.mem_cons_self)
    exact List.dropWhile_cons_of_neg (by simp [Integer.isMargin, hc])

/-- A run of digits is read as an integer unless there are too many. -/
theorem read_of_digits (hne : ds ≠ []) :
    Integer.read (String.ofList ds) =
      if ds.length > Integer.maxDigits then .error (.integerTooLong ds.length)
      else .ok (Decimal.digitsValue ds) := by
  have hback : ∀ c ∈ ds.reverse, isDigit c = true := fun c hc => hds c (List.mem_reverse.1 hc)
  have hfilter : ds.filter isDigit = ds := List.filter_eq_self.2 hds
  simp only [Integer.read, String.toList_ofList, dropWhile_isMargin_of_digits hds,
    dropWhile_isMargin_of_digits hback, List.reverse_reverse, readSign_of_digits hds,
    isDigitRun_of_digits hds hne, hfilter]
  rfl

theorem leadingInteger_of_digits (hne : ds ≠ []) :
    leadingInteger ds =
      if ds.length > Integer.maxDigits then .error (.integerTooLong ds.length)
      else .ok (.int (Decimal.digitsValue ds)) := by
  have hstart : trimStart ds = ds :=
    trimStart_eq_self fun c hc => isBlank_of_isDigit (hds c (List.mem_of_head? hc))
  have htake : ds.takeWhile isDigit = ds := List.takeWhile_eq_self_iff.2 hds
  simp only [leadingInteger, hstart, readSign_of_digits hds, htake, Nat.sub_self, List.take_zero,
    List.nil_append, read_of_digits hds hne, List.isEmpty_iff, hne, if_false]
  split_ifs <;> rfl

end Run

/-! ### Filters of numbers -/

section Numeric

variable {v : Value} {f : Fault}

theorem mem_of_mem_readSign {s : List Char} {c : Char} (hc : c ∈ (Decimal.readSign s).2) :
    c ∈ s := by
  unfold Decimal.readSign at hc
  split at hc
  · exact List.mem_cons_of_mem _ hc
  · exact List.mem_cons_of_mem _ hc
  · exact hc

theorem leadingInteger_of_digitless {s : List Char} (hs : ∀ c ∈ s, isDigit c = false) :
    leadingInteger s = .ok (.float .nan) := by
  have hnone : ((Decimal.readSign (trimStart s)).2.takeWhile isDigit).isEmpty = true := by
    cases h : (Decimal.readSign (trimStart s)).2 with
    | nil => rfl
    | cons c rest =>
      have hc : c ∈ (Decimal.readSign (trimStart s)).2 := h ▸ List.mem_cons_self
      have hmem : c ∈ s := (List.dropWhile_suffix isBlank).subset (mem_of_mem_readSign hc)
      rw [List.takeWhile_cons_of_neg (by simp [hs c hmem])]
      rfl
  simp only [leadingInteger, hnone, if_true]

/-- A value whose plain text has no digit has no integer: it is no finite number itself. -/
theorem integerOf_of_digitless {s : String} (hs : v.plainText = .ok s)
    (hdigits : firstDigits s.toList = []) : integerOf v = .ok (.float .nan) := by
  have hnone : ∀ c ∈ s.toList, isDigit c = false := fun c hc => by
    by_contra h
    exact firstDigits_ne_nil hc (by simpa using h) hdigits
  have hlead : (do leadingInteger (← v.plainText).toList) = .ok (.float .nan) := by
    rw [hs]
    exact leadingInteger_of_digitless hnone
  have hwritten : v.written = s := (Value.plainText_ok_iff.1 hs).2
  cases v with
  | int n =>
    obtain ⟨c, hc, hdigit⟩ := exists_isDigit_written_int n
    rw [hwritten] at hc
    rw [hnone c hc] at hdigit
    cases hdigit
  | float x =>
    cases x with
    | nan => exact hlead
    | infinite negative => exact hlead
    | finite negative m e =>
      obtain ⟨c, hc, hdigit⟩ := exists_isDigit_written_finite negative m e
      rw [show (Binary64.finite negative m e).written = s from hwritten] at hc
      rw [hnone c hc] at hdigit
      cases hdigit
  | _ => exact hlead

/-- With a plain text, the integer is the first run of digits in it, and otherwise that of the value
itself. -/
theorem toInteger_nil_of_plainText {s : String} (hs : v.plainText = .ok s) :
    toInteger v [] =
      if (firstDigits s.toList).isEmpty then .ok (.float .nan)
      else leadingInteger (firstDigits s.toList) := by
  have hread : toInteger v [] =
      if (firstDigits s.toList).isEmpty then integerOf v
      else leadingInteger (firstDigits s.toList) := by
    rw [toInteger, hs]
    rfl
  rw [hread]
  split_ifs with hempty
  · exact integerOf_of_digitless hs (List.isEmpty_iff.1 hempty)
  · rfl

/-- No integer is found in a value exactly if the value has no plain text, or the first run of
digits in its plain text is too long. -/
theorem toInteger_nil_error_iff :
    toInteger v [] = .error f ↔
      v.Unwritten f ∨ ∃ s, v.plainText = .ok s ∧
        (firstDigits s.toList).length > Integer.maxDigits ∧
        f = .integerTooLong (firstDigits s.toList).length := by
  rw [← Value.plainText_error_iff]
  cases hs : v.plainText with
  | error g => simp [toInteger, hs, bind, Except.bind]
  | ok s =>
    have hrun : ∀ c ∈ firstDigits s.toList, isDigit c = true := fun c => isDigit_of_mem_firstDigits
    rw [toInteger_nil_of_plainText hs]
    split_ifs with hempty
    · rw [List.isEmpty_iff] at hempty
      simp [hempty]
    · rw [List.isEmpty_iff] at hempty
      rw [leadingInteger_of_digits hrun hempty]
      split_ifs with hlong
      · simp [hlong, eq_comm]
      · simp [hlong]

theorem isSome_firstDecimal? {s : List Char} {c : Char} (hc : c ∈ s) (hdigit : isDigit c = true) :
    (firstDecimal? s).isSome = true := by
  induction s with
  | nil => cases hc
  | cons d s ih =>
    rw [firstDecimal?]
    cases hd : signedDecimal? (d :: s) with
    | some x => rfl
    | none =>
      refine ih ((List.mem_cons.1 hc).resolve_left ?_)
      rintro rfl
      simp [signedDecimal?, readSign_cons_of_digit hdigit, hdigit] at hd

theorem floatOf_error_iff :
    floatOf v = .error f ↔
      (∃ n, v = .int n ∧ Binary64.overflowBound ≤ n.natAbs ∧ f = .integerTooLarge) ∨
        (∀ n, v ≠ .int n) ∧ v.Unwritten f := by
  cases v with
  | int n =>
    have hfinite : (Binary64.ofRatio (n < 0) n.natAbs 1).isFinite = true ↔
        n.natAbs < Binary64.overflowBound := by
      rw [Binary64.isFinite_ofRatio_iff Nat.one_pos, Nat.mul_one]
    have hint : (∃ k, Value.int n = .int k ∧ Binary64.overflowBound ≤ k.natAbs ∧
        f = .integerTooLarge) ↔ ¬n.natAbs < Binary64.overflowBound ∧ f = .integerTooLarge := by
      simp
    rw [floatOf, hint, or_iff_left fun h => h.1 n rfl, ← hfinite]
    simp only [Binary64.ofInt]
    split_ifs with h
    · simp [h]
    · simp [h, eq_comm]
  | float x => simp [floatOf, Value.not_unwritten_float]
  | _ =>
    rw [floatOf, Value.map_plainText_error_iff]
    · simp
    all_goals simp

theorem number_nil_error_iff : number v [] = .error f ↔ floatOf v = .error f := by
  rw [number]
  cases floatOf v with
  | error g => simp
  | ok x =>
    simp only
    split_ifs
    · simp
    · exact iff_of_false (fun h => by cases h) (fun h => by cases h)

/-- With a plain text, the decimal is the first one in it. -/
theorem toFloat_of_firstDecimal? {s : String} {d : Decimal} (hs : v.plainText = .ok s)
    (h : firstDecimal? s.toList = some d) : toFloat v [] = .ok (.float d.nearest) := by
  simp only [toFloat, hs, bind, Except.bind, h]
  rfl

/-- If there is none in the plain text, the value itself counts. -/
theorem toFloat_of_decimalless {s : String} (hs : v.plainText = .ok s)
    (h : firstDecimal? s.toList = none) : toFloat v [] = (floatOf v).map Value.float := by
  simp only [toFloat, hs, bind, Except.bind, h]
  rfl

theorem toFloat_of_plainText_error (hf : v.plainText = .error f) : toFloat v [] = .error f := by
  simp only [toFloat, hf, bind, Except.bind]

/-- No decimal is found in a value exactly if the value has no plain text. -/
theorem toFloat_nil_error_iff : toFloat v [] = .error f ↔ v.Unwritten f := by
  rw [← Value.plainText_error_iff]
  cases hs : v.plainText with
  | error g => rw [toFloat_of_plainText_error hs, Except.error.injEq, Except.error.injEq]
  | ok s =>
    refine iff_of_false (fun h => ?_) (by simp)
    cases hfirst : firstDecimal? s.toList with
    | some d =>
      rw [toFloat_of_firstDecimal? hs hfirst] at h
      cases h
    | none =>
      rw [toFloat_of_decimalless hs hfirst] at h
      have hfloat : floatOf v = .error f := Result.map_eq_error_iff.1 h
      rcases floatOf_error_iff.1 hfloat with ⟨n, rfl, -⟩ | ⟨-, hunwritten⟩
      · obtain ⟨c, hc, hdigit⟩ := exists_isDigit_written_int n
        rw [(Value.plainText_ok_iff.1 hs).2] at hc
        have hsome := isSome_firstDecimal? hc hdigit
        rw [hfirst] at hsome
        cases hsome
      · exact (Value.plainText_ok_iff.1 hs).1 f hunwritten

end Numeric

end Extraction.Filter
