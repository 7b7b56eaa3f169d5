import Extraction.Filter.Argument
import Extraction.Proofs.Filter.Numerals

/-!
# Integers as arguments

An argument that is an integer is mostly written as a text: a run of digits of any script, in which
a low line may stand before every digit but the first, a sign or none before the run, and blanks
around the whole. The reader takes all of it apart again. What is left of the text without its
blanks begins with the sign or a digit and ends with a digit, and what is left of the run without
its low lines are its digits. Only the number of digits is limited.

## Main definitions

* `Integer.DigitRun` : runs of digits with low lines among them.
* `Integer.Numeral` : a text that writes an integer, by its parts.
* `Argument.Writes` : an argument that stands for an integer.

## Main results

* `Integer.Numeral.read_body` : what is read of a sign and a run of digits.
* `Integer.Numeral.exists_text_eq_of_read` : nothing else is read.
* `Argument.integer?_numeral` : what is read of a numeral.
* `Argument.integer?_text_eq_some_iff` : the texts that are read as an integer.
* `Argument.integer?_of_writes` : what is read of an argument that stands for an integer.
-/

namespace Extraction

open Text

namespace Integer

/-- A run of digits, in which a low line may stand before every digit but the first, and its digits
without the low lines. -/
inductive DigitRun : List Char → List Char → Prop
  | digit {c : Char} (hc : isDigit c = true) : DigitRun [c] [c]
  | cons {c : Char} {run digits : List Char} (hc : isDigit c = true) (h : DigitRun run digits) :
      DigitRun (c :: run) (c :: digits)
  | line {c : Char} {run digits : List Char} (hc : isDigit c = true) (h : DigitRun run digits) :
      DigitRun (c :: '_' :: run) (c :: digits)

namespace DigitRun

variable {run digits : List Char}

theorem of_forall (hne : digits ≠ []) (h : ∀ c ∈ digits, isDigit c = true) :
    DigitRun digits digits := by
  induction digits with
  | nil => exact absurd rfl hne
  | cons c rest ih =>
    have hc := h c List.mem_cons_self
    by_cases hrest : rest = []
    · exact hrest ▸ .digit hc
    · exact .cons hc (ih hrest fun d hd => h d (List.mem_cons_of_mem c hd))

theorem exists_cons (h : DigitRun run digits) : ∃ c rest, run = c :: rest ∧ isDigit c = true := by
  cases h with
  | digit hc | cons hc h | line hc h => exact ⟨_, _, rfl, hc⟩

theorem isDigit_getLast (h : DigitRun run digits) : ∀ c ∈ run.getLast?, isDigit c = true := by
  induction h with
  | digit hc =>
    rintro _ ⟨⟩
    exact hc
  | cons hc h ih | line hc h ih =>
    obtain ⟨d, rest, rfl, -⟩ := h.exists_cons
    simpa using ih

theorem isDigitRun_eq (h : DigitRun run digits) : isDigitRun run = true := by
  induction h with
  | digit hc => exact hc
  | cons hc h ih =>
    obtain ⟨d, rest, rfl, hd⟩ := h.exists_cons
    have hline : d ≠ '_' := by
      rintro rfl
      exact absurd hd (by decide)
    simpa [isDigitRun, hc, hline] using ih
  | line hc h ih => simpa [isDigitRun, hc] using ih

theorem filter_eq (h : DigitRun run digits) : run.filter isDigit = digits := by
  induction h with
  | digit hc => exact List.filter_cons_of_pos hc
  | cons hc h ih => rw [List.filter_cons_of_pos hc, ih]
  | line hc h ih =>
    rw [List.filter_cons_of_pos hc, List.filter_cons_of_neg (by decide), ih]

/-- A text that passes for a run is one. -/
theorem of_isDigitRun (h : isDigitRun run = true) : DigitRun run (run.filter isDigit) := by
  fun_induction isDigitRun run with
  | case1 => cases h
  | case2 c =>
    rw [List.filter_cons_of_pos h]
    exact .digit h
  | case3 c rest ih =>
    obtain ⟨hc, hrest⟩ := Bool.and_eq_true_iff.1 h
    rw [List.filter_cons_of_pos hc, List.filter_cons_of_neg (by decide)]
    exact .line hc (ih hrest)
  | case4 c rest _ _ ih =>
    obtain ⟨hc, hrest⟩ := Bool.and_eq_true_iff.1 h
    rw [List.filter_cons_of_pos hc]
    exact .cons hc (ih hrest)

end DigitRun

/-- The sign of a numeral. -/
inductive Sign where
  | none
  | plus
  | minus
  deriving DecidableEq, Repr

namespace Sign

/-- How a sign is written. -/
def chars : Sign → List Char
  | none => []
  | plus => ['+']
  | minus => ['-']

/-- A natural number with a sign before it. -/
def apply : Sign → Nat → Int
  | minus, n => -n
  | _, n => n

theorem apply_eq (sign : Sign) (n : Nat) :
    sign.apply n = if (sign == minus) = true then -(n : Int) else n := by
  cases sign <;> rfl

/-- Every text begins with a sign or none. -/
theorem exists_readSign_eq (s : List Char) :
    ∃ (sign : Sign) (rest : List Char),
      Decimal.readSign s = (sign == minus, rest) ∧ s = sign.chars ++ rest := by
  unfold Decimal.readSign
  split
  · exact ⟨minus, _, rfl, rfl⟩
  · exact ⟨plus, _, rfl, rfl⟩
  · exact ⟨none, _, rfl, rfl⟩

end Sign

/-- What is read of a text without blanks at its ends, by its sign and its run. -/
theorem read_of_trimmed {s run : List Char} {sign : Sign} (hs : Trimmed s)
    (hsign : Decimal.readSign s = (sign == .minus, run)) :
    Integer.read (String.ofList s) =
      if isDigitRun run then
        if (run.filter isDigit).length > maxDigits then
          .error (.integerTooLong (run.filter isDigit).length)
        else .ok (sign.apply (Decimal.digitsValue (run.filter isDigit)))
      else .error (.badInteger (String.ofList s)) := by
  have hmargin {t : List Char} (h : ∀ c ∈ t.head?, isBlank c = false) :
      t.dropWhile isMargin = t := by
    cases t with
    | nil => rfl
    | cons c t => exact List.dropWhile_cons_of_neg (by simp [isMargin, h c rfl])
  have hlast := hmargin (t := s.reverse) fun c hc =>
    hs.last c (by rwa [List.head?_reverse] at hc)
  simp only [Integer.read, String.toList_ofList, hmargin hs.head, hlast, List.reverse_reverse,
    hsign, Sign.apply_eq]

/-- A numeral: a sign or none and a run of digits, with blanks around them. -/
structure Numeral where
  /-- The blanks before it. -/
  before : List Char
  /-- Its sign. -/
  sign : Sign
  /-- Its digits with the low lines among them. -/
  run : List Char
  /-- Its digits. -/
  digits : List Char
  /-- The blanks behind it. -/
  behind : List Char
  blank_before : allBlank before = true
  blank_behind : allBlank behind = true
  digitRun : DigitRun run digits

namespace Numeral

/-- The sign and the run of a numeral. -/
def body (n : Numeral) : List Char :=
  n.sign.chars ++ n.run

/-- The text of a numeral. -/
def text (n : Numeral) : String :=
  String.ofList (n.before ++ n.body ++ n.behind)

/-- The integer that a numeral writes. -/
def value (n : Numeral) : Int :=
  n.sign.apply (Decimal.digitsValue n.digits)

/-- The usual numeral of an integer. -/
def ofInt (k : Int) : Numeral where
  before := []
  sign := if k < 0 then .minus else .none
  run := Decimal.digitChars k.natAbs
  digits := Decimal.digitChars k.natAbs
  behind := []
  blank_before := rfl
  blank_behind := rfl
  digitRun := .of_forall Nat.toDigits_ne_nil fun _ => Filter.isDigit_of_mem_toDigits

theorem value_ofInt (k : Int) : (ofInt k).value = k := by
  have hdigits : Decimal.digitsValue (ofInt k).digits = k.natAbs :=
    Decimal.digitsValue_digitChars k.natAbs
  rw [value, hdigits, ofInt]
  split_ifs with hk
  · exact (by omega : -(k.natAbs : Int) = k)
  · exact (by omega : (k.natAbs : Int) = k)

/-- A numeral without its blanks begins with a sign or a digit and ends with a digit. -/
theorem trimmed_body (n : Numeral) : Trimmed n.body := by
  obtain ⟨c, rest, hrun, hc⟩ := n.digitRun.exists_cons
  have hlast := n.digitRun.isDigit_getLast
  refine ⟨?_, fun d hd => Filter.isBlank_of_isDigit (hlast d ?_)⟩
  · rw [body, hrun]
    cases n.sign <;> rintro _ ⟨⟩
    · exact Filter.isBlank_of_isDigit hc
    · decide
    · decide
  · rwa [body, List.getLast?_append_of_ne_nil _ (by simp [hrun])] at hd

theorem trim_text (n : Numeral) : trimmed n.text = String.ofList n.body := by
  rw [trimmed, text, String.toList_ofList, trim_append_blanks n.blank_before n.blank_behind,
    n.trimmed_body.trim_eq]

theorem text_ne_empty (n : Numeral) : n.text ≠ "" := by
  obtain ⟨c, rest, hrun, -⟩ := n.digitRun.exists_cons
  intro h
  have hnil : n.before ++ n.body ++ n.behind = [] := String.ofList_eq_empty_iff.1 h
  simp [body, hrun] at hnil

theorem length_digits_le (n : Numeral) : n.digits.length ≤ n.text.length := by
  have hfilter : n.digits.length ≤ n.run.length := by
    rw [← n.digitRun.filter_eq]
    exact List.length_filter_le ..
  have htext : n.text.length = (n.before ++ n.body ++ n.behind).length := String.length_ofList
  rw [htext, body]
  simp only [List.length_append]
  omega

theorem readSign_body (n : Numeral) :
    Decimal.readSign n.body = (n.sign == .minus, n.run) := by
  obtain ⟨c, rest, hrun, hc⟩ := n.digitRun.exists_cons
  rw [body, hrun]
  cases n.sign with
  | none => exact Filter.readSign_cons_of_digit hc rest
  | plus => rfl
  | minus => rfl

/-- A sign and a run are read as an integer unless there are too many digits. -/
theorem read_body (n : Numeral) :
    Integer.read (String.ofList n.body) =
      if n.digits.length > maxDigits then .error (.integerTooLong n.digits.length)
      else .ok n.value := by
  rw [read_of_trimmed n.trimmed_body n.readSign_body, n.digitRun.filter_eq,
    if_pos n.digitRun.isDigitRun_eq]
  rfl

/-- A text whose middle is read as an integer is a numeral of it. -/
theorem exists_text_eq_of_read {s : String} {k : Int} (h : Integer.read (trimmed s) = .ok k) :
    ∃ n : Numeral, n.text = s ∧ n.value = k ∧ n.digits.length ≤ maxDigits := by
  obtain ⟨before, behind, hbefore, hbehind, hs⟩ := exists_blanks_trim s.toList
  obtain ⟨sign, run, hsign, hbody⟩ := Sign.exists_readSign_eq (trim s.toList)
  rw [trimmed, read_of_trimmed (trimmed_trim _) hsign] at h
  split_ifs at h with hrun hlong
  refine ⟨⟨before, sign, run, _, behind, hbefore, hbehind, .of_isDigitRun hrun⟩, ?_,
    Except.ok.inj h, Nat.not_lt.1 hlong⟩
  rw [text, body, ← hbody, ← hs, String.ofList_toList]

end Numeral

end Integer

namespace Argument

theorem integer?_text {s : String} (h : s ≠ "") :
    integer? (.text s) = (Integer.read (trimmed s)).map some := by
  have hplain : (Value.text s).plainText = .ok s := rfl
  unfold integer?
  split
  case h_2 hempty => exact absurd (Value.text.inj hempty) h
  case h_5 =>
    rw [hplain, Result.ok_bind]
    generalize Integer.read (trimmed s) = r
    cases r <;> rfl
  all_goals contradiction

/-- A numeral is read as the integer that it writes, unless it has too many digits. -/
theorem integer?_numeral (n : Integer.Numeral) :
    integer? (.text n.text) =
      if n.digits.length > Integer.maxDigits then .error (.integerTooLong n.digits.length)
      else .ok (some n.value) := by
  rw [integer?_text n.text_ne_empty, n.trim_text, n.read_body]
  split_ifs <;> rfl

/-- The texts that are read as an integer are its numerals that are not too long. -/
theorem integer?_text_eq_some_iff {s : String} {i : Int} :
    integer? (.text s) = .ok (some i) ↔
      ∃ n : Integer.Numeral, n.text = s ∧ n.value = i ∧ n.digits.length ≤ Integer.maxDigits := by
  constructor
  · intro h
    have hs : s ≠ "" := by
      rintro rfl
      cases h
    rw [integer?_text hs] at h
    obtain ⟨k, hk, hki⟩ := Result.map_eq_ok_iff.1 h
    obtain rfl := Option.some.inj hki
    exact Integer.Numeral.exists_text_eq_of_read hk
  · rintro ⟨n, rfl, rfl, hlength⟩
    rw [integer?_numeral, if_neg (Nat.not_lt.2 hlength)]

/-- An argument stands for an integer: it is the integer itself, or a numeral of it of at most 1000
characters. -/
inductive Writes : Value → Int → Prop
  | int (i : Int) : Writes (.int i) i
  | numeral (n : Integer.Numeral) (h : n.text.length ≤ 1000) : Writes (.text n.text) n.value

theorem integer?_of_writes {v : Value} {i : Int} (h : Writes v i) :
    integer? v = .ok (some i) := by
  cases h with
  | int i => rfl
  | numeral n hlength =>
    have hdigits := n.length_digits_le
    exact integer?_text_eq_some_iff.2 ⟨n, rfl, rfl, (hdigits.trans hlength).trans (by decide)⟩

end Argument

end Extraction
