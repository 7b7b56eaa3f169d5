import Extraction.Proofs.Filter.Sizes
import Extraction.Proofs.Filter.Warnings
import Extraction.Proofs.Value.Decidable

/-!
# What stands before a size

The amount of a size is looked for in the first line of a text only. So what stands before a size
does not matter as long as it has no digit, point or comma and the line goes on: the same amount and
unit are found. Behind a line break they are found no more, whatever else stands there, and the text
stays as it is.

## Main results

* `Filter.sizeParts?_append` : the parts of a size behind characters that are of no amount.
* `Filter.Builtin.run_size_append` : a size behind such characters is the same size, or none.
-/

namespace Extraction.Filter

section Parts

variable {p : List Char} (hp : ∀ c ∈ p, isAmountChar c = false)

include hp

/-- Characters of no amount are skipped up to a line break, behind which nothing is found. -/
theorem sizeParts?_append (t : List Char) :
    sizeParts? (p ++ t) = if '\n' ∈ p then none else sizeParts? t := by
  induction p with
  | nil => rfl
  | cons c p ih =>
    have hc : isAmountChar c = false := hp c List.mem_cons_self
    by_cases hbreak : c = '\n'
    · rw [if_pos (by simp [hbreak]), List.cons_append, sizeParts?,
        List.dropWhile_cons_of_neg (by simp [hbreak])]
      exact if_pos hbreak
    · have hskip : sizeParts? (c :: (p ++ t)) = sizeParts? (p ++ t) := by
        rw [sizeParts?, List.dropWhile_cons_of_pos (by simp [hc, hbreak]), sizeParts?]
      have hmem : '\n' ∈ c :: p ↔ '\n' ∈ p := by simp [Ne.symm hbreak]
      rw [List.cons_append, hskip, ih fun d hd => hp d (List.mem_cons_of_mem c hd)]
      simp only [hmem]

end Parts

/-- A text is a size of so many bytes exactly if it has an amount, a unit without digits that is
known or missing, and the product of the two is rounded to them. -/
theorem outcome_size_int_iff {s : String} {n : Int} :
    (size (.text s)).outcome = .ok (.int n) ↔
      ∃ parts x, sizeParts? s.toList = some parts ∧ amount? parts.amount = some x ∧
        parts.unit.any Text.isDigitLike = false ∧
        (parts.unit = [] ∧ roundHalfUp x = .ok (.int n) ∨
          ∃ factor, unitFactor? (String.ofList parts.unit) = some factor ∧
            roundHalfUp (x.mul factor) = .ok (.int n)) := by
  have hbare : unitFactor? (String.ofList []) = none := by decide +kernel
  cases hparts : sizeParts? s.toList with
  | none => simp [size, hparts, Reply.warn]
  | some parts =>
    cases hamount : amount? parts.amount with
    | none => simp [size, hparts, hamount, Reply.warn]
    | some x =>
      cases hdigits : parts.unit.any Text.isDigitLike with
      | true =>
        simp [size, hparts, hamount, hdigits, Reply.warn, -List.any_eq_true, -List.any_eq_false]
      | false =>
        by_cases hunit : parts.unit = []
        · simp [size, hparts, hamount, hunit, hbare, Reply.ofExcept]
        · cases hfactor : unitFactor? (String.ofList parts.unit) with
          | none =>
            simp [size, hparts, hamount, hdigits, hunit, hfactor, Reply.warn]
          | some factor =>
            rw [outcome_size hparts hamount hdigits hfactor]
            simp [hamount, hdigits, hunit, hfactor, -List.any_eq_false]

/-- A text that is a size is one without a notice. -/
theorem size_of_outcome {s : String} {n : Int} (h : (size (.text s)).outcome = .ok (.int n)) :
    size (.text s) = .ok (.int n) := by
  have hnone : ¬∃ k, Value.text s = .int k := by
    rintro ⟨k, hk⟩
    cases hk
  have hnotices : (size (.text s)).notices = [] :=
    ((tells_size s).outcome_ok hnone h).2.1.2 ⟨n, rfl⟩
  exact congrArg₂ Reply.mk h hnotices

theorem size_append {p : String} (hp : ∀ c ∈ p.toList, isAmountChar c = false) {t : String}
    {n : Int} (h : (size (.text t)).outcome = .ok (.int n)) :
    size (.text (p ++ t)) =
      if '\n' ∈ p.toList then .warn (.text (p ++ t)) (.notSize (p ++ t)) else .ok (.int n) := by
  have hparts : sizeParts? (p ++ t).toList =
      if '\n' ∈ p.toList then none else sizeParts? t.toList := by
    rw [String.toList_append, sizeParts?_append hp]
  split_ifs at hparts ⊢ with hbreak
  · simp only [size, hparts]
  · refine size_of_outcome (outcome_size_int_iff.2 ?_)
    rw [hparts]
    exact outcome_size_int_iff.1 h

/-- **What stands before a size in its line does not hide it.** Take any text that is a size of so
many bytes, and put any characters before it of which none is a digit, a point or a comma. If there
is no line break among them, the result is a size of as many bytes, without a notice. If there is
one, the result is left as it is, with a notice that it is no size. -/
theorem Builtin.run_size_append (p t : String) (n : Int)
    (hp : ∀ c ∈ p.toList, isAmountChar c = false)
    (h : (Builtin.size.run (.text t) []).outcome = .ok (.int n)) :
    Builtin.size.run (.text (p ++ t)) [] =
      if '\n' ∈ p.toList then .warn (.text (p ++ t)) (.notSize (p ++ t)) else .ok (.int n) :=
  size_append hp h

theorem forall_isAmountChar_eq_false {s : List Char}
    (h : (s.all fun c => !isAmountChar c) = true) : ∀ c ∈ s, isAmountChar c = false := by
  simpa using h

/-- A size behind a bracket, a tabulator and a carriage return, and behind a line break. -/
theorem Builtin.run_size_append_amount :
    (Builtin.size.run (.text "1,5 KiB)") []).outcome = .ok (.int 1536) ∧
      Builtin.size.run (.text "Größe (\r\tca 1,5 KiB)") [] = .ok (.int 1536) ∧
      Builtin.size.run (.text "Größe\n1,5 KiB)") [] =
        .warn (.text "Größe\n1,5 KiB)") (.notSize "Größe\n1,5 KiB)") := by
  have hsize : (Builtin.size.run (.text "1,5 KiB)") []).outcome = .ok (.int 1536) := by
    decide +kernel
  have hline := Builtin.run_size_append "Größe (\r\tca " "1,5 KiB)" 1536
    (forall_isAmountChar_eq_false (by decide)) hsize
  have hbroken := Builtin.run_size_append "Größe\n" "1,5 KiB)" 1536
    (forall_isAmountChar_eq_false (by decide)) hsize
  rw [if_neg (by decide)] at hline
  rw [if_pos (by decide)] at hbroken
  exact ⟨hsize, hline, hbroken⟩

/-- A size in a line of its own is not found behind another line. -/
theorem Builtin.run_size_lineBreak :
    (Builtin.size.run (.text "2 GB") []).outcome = .ok (.int 2147483648) ∧
      (∀ c ∈ "Size:\n".toList, isAmountChar c = false) ∧
      (Builtin.size.run (.text ("Size:\n" ++ "2 GB")) []).outcome =
        .ok (.text "Size:\n2 GB") := by
  refine ⟨?_, forall_isAmountChar_eq_false (by decide), ?_⟩ <;> decide +kernel

end Extraction.Filter
