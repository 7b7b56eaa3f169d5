import Extraction.Filter.Registry
import Extraction.Proofs.Evaluation.Result
import Extraction.Proofs.Pattern.Template

/-!
# Replacing the matches of a pattern

With flags, the filter for replacements looks for the matches of a pattern and puts in the place of
each what the replacement text stands for there. If the text refers to a group that the pattern does
not have, or by a number of more digits than can be read, the value stays as it is, with a warning.

## Main definitions

* `Filter.isForAll` : whether flags ask for every match.
* `Pattern.replaceBy` : a text with matches replaced by what a function gives for them.

## Main results

* `Filter.Builtin.run_replace_pattern` : the filter with flags.
* `Filter.Builtin.run_replace_longNumber` : a number of a group that cannot be read.
-/

namespace Extraction

namespace Pattern

/-- A text with its first match, or all of them, replaced by what a function gives for them. -/
def replaceBy (n : Node) (f : Match → List Char) (all : Bool) (s : List Char) : List Char :=
  let limit := if all then 2 * s.length + 2 else 1
  let (found, tail) := n.scan limit false (Spot.start s)
  found.flatMap (fun m => m.skipped ++ f m.found) ++ tail

/-- Pieces are put in the place of matches as a replacement text is. -/
theorem replaceMatches_pieces (n : Node) (r : List Char) (all : Bool) (s : List Char) :
    replaceMatches n ((partsOf r).map Part.piece) all s =
      replaceBy n (fun m => substitute m r) all s := by
  simp only [replaceMatches, replaceBy, expand_pieces]

end Pattern

namespace Filter

open Pattern

/-- Whether flags ask for every match. -/
def isForAll (flags : Value) : Bool :=
  match letters flags with
  | .ok found => found.any fun letter => letter.equal (.text "g")
  | .error _ => false

variable {pattern flags : Value} {n : Node} {groups : Nat}

/-- Only a text is a pattern. -/
theorem exists_text_of_patternOf (h : patternOf pattern flags = .ok (n, groups)) :
    ∃ p, pattern = .text p := by
  obtain ⟨fs, -, h⟩ := Result.bind_eq_ok_iff.1 h
  cases pattern with
  | text p => exact ⟨p, rfl⟩
  | bytes bs => cases h
  | _ =>
    dsimp only at h
    split at h <;> cases h

/-- Flags under which a pattern is read are letters. -/
theorem exists_letters_of_patternOf (h : patternOf pattern flags = .ok (n, groups)) :
    ∃ found, letters flags = .ok found := by
  obtain ⟨fs, hflags, -⟩ := Result.bind_eq_ok_iff.1 h
  obtain ⟨found, hfound, -⟩ := Result.bind_eq_ok_iff.1 hflags
  exact ⟨found, hfound⟩

/-- A pattern that is read has its matches replaced, if every part of the replacement text fits. -/
theorem replacePattern_of_fits (s r : String) (hpattern : patternOf pattern flags = .ok (n, groups))
    (hfits : ∀ p ∈ partsOf r.toList, p.Fits groups) :
    replacePattern s pattern (.text r) flags =
      .ok (.text (String.ofList (replaceBy n (fun m => substitute m r.toList) (isForAll flags)
        s.toList))) := by
  obtain ⟨found, hfound⟩ := exists_letters_of_patternOf hpattern
  rw [replacePattern, hpattern, Result.ok_bind]
  dsimp only
  rw [readTemplate_templateOf hfits, Result.ok_bind, isForAll, hfound, Result.ok_bind,
    replaceMatches_pieces]
  rfl

/-- A pattern that is read is no pattern for a replacement text that has a part that does not
fit. -/
theorem replacePattern_of_not_fits (s r : String)
    (hpattern : patternOf pattern flags = .ok (n, groups))
    (hfits : ∃ p ∈ partsOf r.toList, ¬p.Fits groups) :
    ∃ reason, replacePattern s pattern (.text r) flags = .error (.malformed reason) := by
  obtain ⟨reason, htemplate⟩ := exists_readTemplate_templateOf hfits
  refine ⟨reason, ?_⟩
  rw [replacePattern, hpattern, Result.ok_bind]
  dsimp only
  rw [htemplate]
  rfl

/-- With flags, the filter looks for a pattern. -/
theorem Builtin.run_replace_of_isTruthy (s : String) (pattern replacement : Value)
    (h : Argument.isTruthy flags = true) :
    replace.run (.text s) [pattern, replacement, flags] =
      match replacePattern s pattern replacement flags with
      | .ok result => .ok result
      | .error problem => refuse (.text s) pattern Notice.badReplacePattern problem :=
  if_pos h

/-- A text stays as it is, with a warning, if a part of the replacement text does not fit. -/
theorem Builtin.exists_run_replace_of_not_fits (s r : String)
    (hflags : Argument.isTruthy flags = true) (hpattern : patternOf pattern flags = .ok (n, groups))
    (hfits : ∃ p ∈ partsOf r.toList, ¬p.Fits groups) :
    ∃ problem, replace.run (.text s) [pattern, .text r, flags] =
      .warn (.text s) (.badReplacePattern pattern problem) := by
  obtain ⟨reason, hproblem⟩ := replacePattern_of_not_fits s r hpattern hfits
  obtain ⟨p, rfl⟩ := exists_text_of_patternOf hpattern
  exact ⟨.malformed reason, by rw [run_replace_of_isTruthy _ _ _ hflags, hproblem]; rfl⟩

/-- **Replacement texts mean what they say.** Take any text and any replacement text, and a pattern
that is read under flags that count as given, with the number of its groups. If the replacement text
refers by its numbers to groups of the pattern, each with at most 4300 digits, then its template is
read, and at every match, be it of this pattern or not, the pieces of the template stand for what
the replacement text stands for: the texts of the groups for the numbers, the whole match for each
dollar sign with an ampersand, and all other characters as they are. The filter puts these in the
place of the matches. If the replacement text refers to any other group, or by a longer number, the
filter gives the text back, with one warning. -/
theorem Builtin.run_replace_pattern (s r : String) (hflags : Argument.isTruthy flags = true)
    (hpattern : patternOf pattern flags = .ok (n, groups)) :
    ((∀ p ∈ partsOf r.toList, p.Fits groups) →
      (∃ pieces, readTemplate groups (templateOf r.toList) = .ok pieces ∧
        ∀ m, expand m pieces = substitute m r.toList) ∧
      replace.run (.text s) [pattern, .text r, flags] =
        .ok (.text (String.ofList (replaceBy n (fun m => substitute m r.toList) (isForAll flags)
          s.toList)))) ∧
    ((∃ p ∈ partsOf r.toList, ¬p.Fits groups) →
      ∃ problem, replace.run (.text s) [pattern, .text r, flags] =
        .warn (.text s) (.badReplacePattern pattern problem)) := by
  refine ⟨fun hfits => ⟨⟨_, readTemplate_templateOf hfits, fun m => expand_pieces m r.toList⟩, ?_⟩,
    exists_run_replace_of_not_fits s r hflags hpattern⟩
  rw [run_replace_of_isTruthy _ _ _ hflags, replacePattern_of_fits s r hpattern hfits]

/-- A group that has matched and one that has not, dollar signs that refer to nothing, and a
backslash before an ampersand and before a dollar sign. -/
theorem Builtin.run_replace_pattern_signs :
    ∃ n, Argument.isTruthy (.text "g") = true ∧
      patternOf (.text "(a)|b") (.text "g") = .ok (n, 1) ∧
      (∀ p ∈ partsOf "<$1$$&\\$>".toList, p.Fits 1) ∧
      replace.run (.text "ab") [.text "(a)|b", .text "<$1$$&\\$>", .text "g"] =
        .ok (.text "<a$a\\$><$b\\$>") := by
  have hpattern : patternOf (.text "(a)|b") (.text "g") = .ok (.alt
      (.group 1 (.one (.literal .exact 'a'))) (.one (.literal .exact 'b')), 1) := rfl
  have hparts : partsOf "<$1$$&\\$>".toList =
      [.char '<', .number ['1'], .char '$', .whole, .char '\\', .char '$', .char '>'] := by
    have hdigit : Text.isDigit '1' = true := rfl
    have hdollar : Text.isDigit '$' = false := rfl
    have hgreater : Text.isDigit '>' = false := rfl
    simp [partsOf, hdigit, hdollar, hgreater]
  have hfits : ∀ p ∈ partsOf "<$1$$&\\$>".toList, p.Fits 1 := by
    rw [hparts]
    simp [Part.Fits, Decimal.digitsValue]
    decide
  refine ⟨_, rfl, hpattern, hfits, ?_⟩
  refine ((run_replace_pattern "ab" "<$1$$&\\$>" rfl hpattern).1 hfits).2.trans ?_
  have hall : isForAll (.text "g") = true := by
    have hletters : letters (.text "g") = .ok [.text "g"] := rfl
    simp [isForAll, hletters, Value.equal]
  simp only [substitute, hparts, hall]
  rfl

theorem digitsValue_zeros (k : Nat) : Decimal.digitsValue (List.replicate k '0') = 0 := by
  induction k with
  | zero => rfl
  | succ k ih => exact ih

/-- The whole match may be referred to by a number of more digits than can be read. The replacement
text then stands for the match and one more letter, but the filter gives the text back. -/
theorem Builtin.run_replace_longNumber :
    let r := '$' :: List.replicate 4301 '0' ++ ['x']
    (∃ n, patternOf (.text "a") (.text "g") = .ok (n, 0)) ∧
      Decimal.digitsValue (List.replicate 4301 '0') = 0 ∧
      substitute ⟨['a'], []⟩ r = ['a', 'x'] ∧
      ∃ problem, replace.run (.text "a") [.text "a", .text (String.ofList r), .text "g"] =
        .warn (.text "a") (.badReplacePattern (.text "a") problem) := by
  intro r
  have hpattern : patternOf (.text "a") (.text "g") = .ok (.one (.literal .exact 'a'), 0) := rfl
  have hne : List.replicate 4301 '0' ≠ [] := List.ne_nil_of_length_pos (by
    rw [List.length_replicate]
    exact Nat.succ_pos 4300)
  have hdigits : ∀ c ∈ List.replicate 4301 '0', Text.isDigit c = true := by
    intro c hc
    rw [List.eq_of_mem_replicate hc]
    rfl
  have hlast : partsOf ['x'] = [.char 'x'] := by
    simp [partsOf]
  have hparts : partsOf r = [.number (List.replicate 4301 '0'), .char 'x'] :=
    (partsOf_number hne hdigits rfl).trans (congrArg (_ :: ·) hlast)
  refine ⟨⟨_, hpattern⟩, digitsValue_zeros 4301, ?_, ?_⟩
  · rw [substitute, hparts, List.flatMap_cons, Part.text, digitsValue_zeros]
    rfl
  · refine exists_run_replace_of_not_fits "a" _ rfl hpattern ?_
    rw [String.toList_ofList, hparts]
    refine ⟨_, List.mem_cons_self, fun h => ?_⟩
    rw [Part.Fits, List.length_replicate] at h
    exact absurd h.1 (by decide)

end Filter

end Extraction
