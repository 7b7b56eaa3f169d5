import Extraction.Filter.Dates
import Extraction.Proofs.Evaluation.Result
import Extraction.Proofs.Number.Overflow
import Extraction.Proofs.Value.Unwritten

/-!
# What the filter of dates fails on

A number stands for a moment, and only the notice that it stands for none cites it. An integer that
cannot be cited is beyond the range of double-precision numbers, so that it never stands for one. In
a text a date is looked for in two readings, at each of which the reader of dates may break off.

## Main definitions

* `Filter.Interrupted` : how the reader of dates may break off in the search for a moment.

## Main results

* `Filter.dateOfText_null` : how the moment of a text is found without an ending.
* `Filter.date_nil_error_iff` : when the filter fails.
* `Filter.date_text_of_found` : what it gives for a text in which a moment is found.
-/

namespace Extraction.Filter

open Text

theorem ofMillis?_of_long {n : Int} (h : tenTo Integer.maxDigits ≤ n.natAbs) :
    Calendar.ofMillis? (.int n) = none := by
  have hbound : Binary64.overflowBound * 1000 ≤ tenTo Integer.maxDigits := by
    rw [Binary64.overflowBound_eq]
    decide +kernel
  have hinfinite : (Binary64.ofSignedRatio false n 1000).isFinite = false := by
    rw [Bool.eq_false_iff, Binary64.ofSignedRatio, ne_eq,
      Binary64.isFinite_ofRatio_iff (Nat.succ_pos 999)]
    exact Nat.not_lt.2 (hbound.trans h)
  rw [Calendar.ofMillis?, Calendar.ofSecondsFloat?]
  cases hx : Binary64.ofSignedRatio false n 1000 with
  | finite s m e =>
    rw [hx] at hinfinite
    cases hinfinite
  | _ => rfl

/-! ### Texts -/

section Texts

variable [Engines] {v : Value} {f : Fault}

/-- The reader of dates breaks off at a text, which is no exact date. -/
def BreaksOff (s : List Char) (f : Fault) : Prop :=
  Calendar.readIso? s = none ∧ (Engines.readDate s).run = .error f

theorem readMoment_error_iff {s : List Char} : readMoment s = .error f ↔ BreaksOff s f := by
  rw [readMoment, BreaksOff]
  cases Calendar.readIso? s with
  | some m => simp
  | none => simp

/-- The moment that a text names by itself or else by the digits of a date in it. -/
def dateOfPlain (t : List Char) : Except Fault (Option Moment) := do
  match ← readMoment (trim t) with
  | some m => return some m
  | none =>
    match pickDate? t with
    | none => return none
    | some (day, clock) => readMoment (trim (day ++ ' ' :: clock ++ [' ']))

/-- How the reader of dates may break off in a search for the moment that a text names. -/
inductive Interrupted (t : List Char) (f : Fault) : Prop
  /-- At the text itself. -/
  | whole : BreaksOff (trim t) f → Interrupted t f
  /-- At the digits of a date, which are picked out of a text that names no moment by itself. -/
  | picked {day clock : List Char} : readMoment (trim t) = .ok none →
    pickDate? t = some (day, clock) → BreaksOff (trim (day ++ ' ' :: clock ++ [' '])) f →
    Interrupted t f

theorem dateOfPlain_error_iff {t : List Char} : dateOfPlain t = .error f ↔ Interrupted t f := by
  rw [dateOfPlain, Result.bind_eq_error_iff, readMoment_error_iff]
  constructor
  · rintro (hwhole | ⟨found, hfound, h⟩)
    · exact .whole hwhole
    · cases found with
      | some m => cases h
      | none =>
        cases hpick : pickDate? t with
        | none =>
          rw [hpick] at h
          cases h
        | some picked =>
          rw [hpick] at h
          exact .picked hfound hpick (readMoment_error_iff.1 h)
  · rintro (hwhole | ⟨hnone, hpick, hbreaks⟩)
    · exact .inl hwhole
    · refine .inr ⟨none, hnone, ?_⟩
      rw [hpick]
      exact readMoment_error_iff.2 hbreaks

/-- Without an ending, a moment is looked for in the plain text of a value alone. -/
theorem dateOfText_null (v : Value) :
    dateOfText v .null = v.plainText >>= fun t => dateOfPlain t.toList := by
  unfold dateOfText dateOfPlain
  -- What the readers find does not matter, and no step below should look at how they read.
  generalize readMoment = read
  generalize pickDate? = pick
  cases v.plainText with
  | error g => rfl
  | ok t => cases v <;> rfl

theorem dateOfText_null_error_iff :
    dateOfText v .null = .error f ↔
      v.Unwritten f ∨ ∃ t, v.plainText = .ok t ∧ Interrupted t.toList f := by
  simp only [dateOfText_null, Result.bind_eq_error_iff, Value.plainText_error_iff,
    dateOfPlain_error_iff]

end Texts

/-! ### Numbers -/

theorem dateOfStamp_error_iff {v : Value} {stamp : Value.Number} {f : Fault} :
    (dateOfStamp v stamp).outcome = .error f ↔
      Calendar.ofMillis? stamp = none ∧ v.quoteFault? = some f := by
  rw [dateOfStamp]
  cases Calendar.ofMillis? stamp with
  | some m => simp [Reply.ok]
  | none => cases v.quoteFault? <;> simp [Reply.fail, Reply.warn]

/-! ### Values -/

/-- Whether a date is looked for in the text of a value: the value is not a moment itself, not
empty, and no number, which counts milliseconds. -/
def isSearched : Value → Bool
  | .moment _ | .null | .int _ | .float _ => false
  | _ => true

/-- The filter fails on a value that is not a moment and has no plain text, and on one in whose text
the reader of dates breaks off. -/
theorem date_nil_error_iff [Engines] {v : Value} {f : Fault} :
    (date v []).outcome = .error f ↔
      (∀ m, v ≠ .moment m) ∧ v.Unwritten f ∨
        isSearched v = true ∧ ∃ t, v.plainText = .ok t ∧ Interrupted t.toList f := by
  cases v with
  | null =>
    rw [← Value.textFault?_eq_some_iff]
    simp [date, Reply.warn, Value.textFault?, Value.quoteFault?, isSearched]
  | moment m => simp [date, Reply.ok, isSearched]
  | int n =>
    have hlong {g : Fault} (h : (Value.int n).quoteFault? = some g) :
        Calendar.ofMillis? (.int n) = none :=
      ofMillis?_of_long (Integer.writeFault?_eq_some_iff.1 h).2
    rw [← Value.textFault?_eq_some_iff, and_iff_right (by simp), or_iff_left (by simp [isSearched])]
    exact dateOfStamp_error_iff.trans (and_iff_right_of_imp hlong)
  | float x =>
    rw [or_iff_left (by simp [isSearched])]
    refine iff_of_false (fun h => ?_) fun h => Value.not_unwritten_float x f h.2
    cases x with
    | nan => cases h
    | _ => cases (dateOfStamp_error_iff.1 h).2
  | _ =>
    rw [and_iff_right (by simp)]
    refine .trans ?_ (or_congr_right (and_iff_right rfl).symm)
    rw [← dateOfText_null_error_iff]
    simp only [date, List.getD_nil]
    generalize dateOfText _ _ = found
    rcases found with g | _ | m <;> simp [Reply.fail, Reply.warn, Reply.ok]

/-- The filter gives the moment that is found in a text. -/
theorem date_text_of_found [Engines] {s : String} {m : Moment}
    (h : (dateOfPlain s.toList).toOption = some (some m)) :
    date (.text s) [] = .ok (.moment m) := by
  have hfound : dateOfText (.text s) .null = .ok (some m) := by
    rw [dateOfText_null, show (Value.text s).plainText = .ok s from rfl, Result.ok_bind]
    exact Result.toOption_eq_some_iff.1 h
  simp only [date, List.getD_nil, hfound]

end Extraction.Filter
