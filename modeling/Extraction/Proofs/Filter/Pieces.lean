import Extraction.Filter.Registry
import Extraction.Proofs.Filter.Integers
import Extraction.Proofs.Text.Search

/-!
# The pieces of a text

A text is cut at the occurrences of a separator, reading from the left, or between all characters if
the separator is empty. Nothing is lost by that: joined with the separator, the pieces are the text
again, also if occurrences of the separator overlap, touch, or stand at an end. No piece holds the
separator any more. A limit keeps the first pieces; it is written as a text, of which no more than
4300 digits are read.

## Main results

* `Filter.joinItems_texts` : texts are joined as they are.
* `Filter.Builtin.run_split` : the pieces that the filter gives, with a limit or without.
* `Filter.Builtin.run_split_join` : cutting and joining.
-/

namespace Extraction.Filter

open Text

theorem mapM_joinedItem_texts (texts : List String) :
    (texts.map Value.text).mapM joinedItem = .ok (texts.map String.toList) := by
  induction texts with
  | nil => rfl
  | cons s texts ih =>
    have hs : joinedItem (.text s) = .ok s.toList := rfl
    rw [List.map_cons, List.mapM_cons, hs, ih]
    rfl

/-- Texts are joined as they are. -/
theorem joinItems_texts (sep : List Char) (texts : List String) :
    joinItems sep (texts.map Value.text) =
      .ok (.text (String.ofList (joinWith sep (texts.map String.toList)))) := by
  rw [joinItems, mapM_joinedItem_texts]
  rfl

/-- The pieces of a text, as texts. -/
def textPieces (s sep : String) : List String :=
  (splitOn sep.toList s.toList).map String.ofList

theorem map_toList_textPieces (s sep : String) :
    (textPieces s sep).map String.toList = splitOn sep.toList s.toList := by
  rw [textPieces, List.map_map]
  exact (List.map_congr_left fun piece _ => String.toList_ofList).trans (List.map_id _)

/-- The pieces of a text up to a limit. -/
theorem split_of_limit {s sep : String} {arguments : List Value} {limit : Option Int}
    (hsep : arguments.getD 0 .null = .text sep)
    (hlimit : Argument.integerAt? arguments 1 = .ok limit) :
    split (.text s) arguments =
      .ok (.list (((limit.map fun n => (textPieces s sep).take n.toNat).getD
        (textPieces s sep)).map .text)) := by
  have hpieces : pieces s.toList (.text sep) = .ok (splitOn sep.toList s.toList) := rfl
  simp only [split, hsep, hpieces, hlimit, Result.ok_bind]
  cases limit with
  | none => simp [textPieces, pure, Except.pure, Function.comp_def]
  | some n => simp [textPieces, pure, Except.pure, Function.comp_def, List.map_take]

/-- Without a limit that can be read there are no pieces. -/
theorem split_of_limit_error {s sep : String} {arguments : List Value} {f : Fault}
    (hsep : arguments.getD 0 .null = .text sep)
    (hlimit : Argument.integerAt? arguments 1 = .error f) :
    split (.text s) arguments = .error f := by
  have hpieces : pieces s.toList (.text sep) = .ok (splitOn sep.toList s.toList) := rfl
  simp only [split, hsep, hpieces, hlimit, Result.ok_bind]
  rfl

namespace Builtin

theorem run_split (s sep : String) :
    split.run (.text s) [.text sep] = .ok (.list ((textPieces s sep).map .text)) := by
  have hlimit : Argument.integerAt? [.text sep] 1 = .ok none := rfl
  exact congrArg Reply.ofExcept (split_of_limit rfl hlimit)

theorem run_split_limit (s sep : String) (n : Integer.Numeral) :
    split.run (.text s) [.text sep, .text n.text] =
      if n.digits.length > Integer.maxDigits then .fail (.integerTooLong n.digits.length)
      else .ok (.list (((textPieces s sep).take n.value.toNat).map .text)) := by
  have hlimit : Argument.integerAt? [.text sep, .text n.text] 1 = _ := Argument.integer?_numeral n
  split_ifs at hlimit ⊢ with hlong
  · exact congrArg Reply.ofExcept (split_of_limit_error rfl hlimit)
  · exact congrArg Reply.ofExcept (split_of_limit rfl hlimit)

theorem run_join_textPieces (s sep : String) :
    join.run (.list ((textPieces s sep).map .text)) [.text sep] = .ok (.text s) := by
  have hjoin := joinItems_texts sep.toList (textPieces s sep)
  rw [map_toList_textPieces, joinWith_splitOn_eq, String.ofList_toList] at hjoin
  exact congrArg Reply.ofExcept hjoin

theorem not_isInfix_of_mem_textPieces {s sep piece : String} (hsep : sep ≠ "")
    (h : piece ∈ textPieces s sep) : ¬sep.toList <:+: piece.toList := by
  obtain ⟨cs, hcs, rfl⟩ := List.mem_map.1 h
  obtain ⟨p, ps, hp⟩ : ∃ p ps, sep.toList = p :: ps :=
    List.exists_cons_of_ne_nil (mt String.toList_eq_nil_iff.1 hsep)
  rw [hp] at hcs ⊢
  rw [String.toList_ofList]
  exact not_isInfix_of_mem_splitOn hcs

/-- **Cutting and joining.** Take any text and any separator. The pieces of the text, joined with
the separator, are the text again. Unless the separator is empty, no piece holds it. With a limit
written by any numeral of at most 4300 digits, there are the first so many pieces, and none if the
limit is negative; a limit of more digits is not read. -/
theorem run_split_join (s sep : String) :
    ∃ pieces : List String,
      split.run (.text s) [.text sep] = .ok (.list (pieces.map .text)) ∧
        join.run (.list (pieces.map .text)) [.text sep] = .ok (.text s) ∧
        (sep ≠ "" → ∀ piece ∈ pieces, ¬sep.toList <:+: piece.toList) ∧
        ∀ n : Integer.Numeral,
          split.run (.text s) [.text sep, .text n.text] =
            if n.digits.length > Integer.maxDigits then .fail (.integerTooLong n.digits.length)
            else .ok (.list ((pieces.take n.value.toNat).map .text)) :=
  ⟨textPieces s sep, run_split s sep, run_join_textPieces s sep,
    fun hsep _ => not_isInfix_of_mem_textPieces hsep, run_split_limit s sep⟩

/-- A text whose separator overlaps itself and stands at the end, cut without a limit and with
one. -/
theorem run_split_join_overlap :
    "aa" ≠ "" ∧
      ∃ pieces : List String,
        split.run (.text "aaabaa") [.text "aa"] = .ok (.list (pieces.map .text)) ∧
          join.run (.list (pieces.map .text)) [.text "aa"] = .ok (.text "aaabaa") ∧
          (∀ piece ∈ pieces, ¬"aa".toList <:+: piece.toList) ∧
          split.run (.text "aaabaa") [.text "aa", .text "2"] =
            .ok (.list ((pieces.take 2).map .text)) := by
  have hsep : "aa" ≠ "" := by decide
  obtain ⟨pieces, hsplit, hjoin, hnone, hlimit⟩ := run_split_join "aaabaa" "aa"
  have htext : (Integer.Numeral.ofInt 2).text = "2" := by decide +kernel
  have hshort : ¬(Integer.Numeral.ofInt 2).digits.length > Integer.maxDigits := by decide +kernel
  have htwo := hlimit (.ofInt 2)
  rw [htext, if_neg hshort, Integer.Numeral.value_ofInt] at htwo
  exact ⟨hsep, pieces, hsplit, hjoin, hnone hsep, htwo⟩

/-- The numeral of a power of ten has one digit more than its exponent. -/
theorem exists_numeral_tenTo (k : Nat) :
    ∃ n : Integer.Numeral, n.value = tenTo k ∧ n.digits.length = k + 1 := by
  have hdigits : ∀ c ∈ ['1'] ++ List.replicate k '0', isDigit c = true := by
    intro c hc
    rcases List.mem_append.1 hc with hc | hc
    · exact List.mem_singleton.1 hc ▸ rfl
    · exact isDigit_of_mem_zeros hc
  have hvalue : Decimal.digitsValue (['1'] ++ List.replicate k '0') = tenTo k := by
    rw [Decimal.digitsValue_append_zeros]
    exact Nat.one_mul _
  have hlength : (['1'] ++ List.replicate k '0').length = k + 1 := by
    rw [List.length_append, List.length_replicate, List.length_singleton, Nat.add_comm]
  exact ⟨⟨[], .none, _, _, [], rfl, rfl, .of_forall (List.cons_ne_nil _ _) hdigits⟩,
    congrArg Int.ofNat hvalue, hlength⟩

/-- A limit of 4301 digits fails, though the integer that it writes would keep all pieces. -/
theorem run_split_longLimit :
    ∃ n : Integer.Numeral, n.value = tenTo 4300 ∧
      split.run (.text "a") [.text ","] = .ok (.list (["a"].map .text)) ∧
      split.run (.text "a") [.text ",", .text n.text] ≠
        .ok (.list ((["a"].take n.value.toNat).map .text)) := by
  obtain ⟨n, hvalue, hlength⟩ := exists_numeral_tenTo 4300
  have hpieces : textPieces "a" "," = ["a"] := by decide +kernel
  have hall := run_split "a" ","
  rw [hpieces] at hall
  refine ⟨n, hvalue, hall, fun h => ?_⟩
  rw [run_split_limit, hlength, if_pos (by decide)] at h
  cases congrArg Reply.outcome h

end Builtin

end Extraction.Filter
