import Extraction.Filter.Registry
import Extraction.Proofs.Evaluation.Result
import Mathlib.Tactic.SplitIfs

/-!
# One warning for what is not found

Four filters look for something in a value that need not be there: a moment, a size, the matches of
a pattern, and a text with the matches of a pattern replaced. They answer either with what they
look for, or with a value that stands in for it and one warning, so that the warnings can be told
from the values. Where they fail they leave no notice.

## Main definitions

* `Reply.Tells` : a reply has what is looked for, or else one warning.
* `Filter.MatchesOf` : a value is the list of the matches of a pattern in a text.

## Main results

* `Reply.Tells.outcome_ok` : what a reply with a value says about it.
* `Filter.Builtin.tells_run` : the replies of the four filters.
-/

namespace Extraction

/-- A reply fails, or it has a value that is looked for, both without a notice, or it has the value
that stands in for one, with a warning and no other notice. -/
inductive Reply.Tells (found : Value → Prop) (standIn : Value) : Reply → Prop
  | failed (f : Fault) : Tells found standIn (.fail f)
  | found {v : Value} (hv : found v) : Tells found standIn (.ok v)
  | missed {n : Notice} (hn : n.severity = .warning) : Tells found standIn (.warn standIn n)

namespace Reply

variable {found : Value → Prop} {standIn v : Value} {r : Reply}

/-- A reply that has a value has no notice exactly if the value is one that is looked for, and a
warning and no other notice exactly if it is the one that stands in. -/
theorem Tells.outcome_ok (h : r.Tells found standIn) (hfound : ¬found standIn)
    (hv : r.outcome = .ok v) :
    (found v ∨ v = standIn) ∧ (r.notices = [] ↔ found v) ∧
      ((∃ n, r.notices = [n] ∧ n.severity = .warning) ↔ v = standIn) := by
  cases h with
  | failed f => cases hv
  | found hw =>
    obtain rfl := Except.ok.inj hv
    refine ⟨.inl hw, iff_of_true rfl hw, iff_of_false (fun ⟨_, hn, _⟩ => by cases hn) ?_⟩
    rintro rfl
    exact hfound hw
  | missed hn =>
    obtain rfl := Except.ok.inj hv
    exact ⟨.inr rfl, iff_of_false (fun h => by cases h) hfound, iff_of_true ⟨_, rfl, hn⟩ rfl⟩

end Reply

namespace Filter

open Reply

/-! ### Moments -/

theorem tells_dateOfStamp (v : Value) (stamp : Value.Number) :
    (dateOfStamp v stamp).Tells (fun w => ∃ m, w = .moment m) .null := by
  unfold dateOfStamp
  split
  case h_1 m _ => exact .found ⟨m, rfl⟩
  case h_2 =>
    split
    · exact .failed _
    · exact .missed rfl

theorem tells_date [Engines] (v : Value) (arguments : List Value) :
    (date v arguments).Tells (fun w => ∃ m, w = .moment m) .null := by
  unfold date
  split
  case h_1 m => exact .found ⟨m, rfl⟩
  case h_2 => exact .missed rfl
  case h_3 => exact .missed rfl
  case h_4 => exact tells_dateOfStamp _ _
  case h_5 => exact tells_dateOfStamp _ _
  case h_6 =>
    split
    case h_1 m _ => exact .found ⟨m, rfl⟩
    case h_2 => exact .missed rfl
    case h_3 f _ => exact .failed f

/-! ### Sizes -/

theorem tells_roundHalfUp (x : Binary64) (standIn : Value) :
    (ofExcept (roundHalfUp x)).Tells (fun w => ∃ n, w = .int n) standIn := by
  unfold roundHalfUp
  split
  case h_1 n _ => exact .found ⟨n, rfl⟩
  case h_2 => exact .failed _

theorem tells_size (s : String) :
    (size (.text s)).Tells (fun w => ∃ n, w = .int n) (.text s) := by
  unfold size
  dsimp only
  split
  · exact .missed rfl
  · split
    · exact .missed rfl
    · split_ifs
      · exact .missed rfl
      · exact tells_roundHalfUp _ _
      · split
        · exact tells_roundHalfUp _ _
        · exact .missed rfl

/-! ### Patterns -/

/-- A value is the list of the matches in a text of the pattern that arguments write. -/
def MatchesOf (s : String) (arguments : List Value) (w : Value) : Prop :=
  ∃ n groups, patternOf (arguments.getD 0 .null) (arguments.getD 1 .null) = .ok (n, groups) ∧
    w = .list ((n.matches s.toList).map fun m => .text (String.ofList m.text))

theorem tells_refuse {found : Value → Prop} (v pattern : Value)
    {notice : Value → Pattern.Problem → Notice}
    (h : ∀ pattern problem, (notice pattern problem).severity = .warning)
    (problem : Pattern.Problem) : (refuse v pattern notice problem).Tells found v := by
  unfold refuse
  split
  · exact .failed _
  · split
    · exact .failed _
    · exact .missed (h _ _)

theorem tells_allMatches (s : String) (arguments : List Value) :
    (allMatches (.text s) arguments).Tells (MatchesOf s arguments) (.text s) := by
  unfold allMatches
  dsimp only
  split
  case h_1 n groups hpattern => exact .found ⟨n, groups, hpattern, rfl⟩
  case h_2 => exact tells_refuse _ _ (fun _ _ => rfl) _

theorem exists_text_of_replacePart {s : String} {part replacement w : Value}
    (h : replacePart s part replacement = .ok w) : ∃ t, w = .text t := by
  unfold replacePart at h
  split at h
  · exact ⟨_, (Except.ok.inj h).symm⟩
  · cases h
  · cases h

theorem exists_text_of_replacePattern {s : String} {pattern replacement flags w : Value}
    (h : replacePattern s pattern replacement flags = .ok w) : ∃ t, w = .text t := by
  obtain ⟨⟨n, groups⟩, -, h⟩ := Result.bind_eq_ok_iff.1 h
  cases replacement with
  | text r =>
    obtain ⟨pieces, -, h⟩ := Result.bind_eq_ok_iff.1 h
    obtain ⟨found, -, h⟩ := Result.bind_eq_ok_iff.1 h
    exact ⟨_, (Except.ok.inj h).symm⟩
  | _ => cases h

theorem tells_replace (s : String) (arguments : List Value) :
    (replace (.text s) arguments).Tells (fun w => ∃ t, w = .text t) (.text s) := by
  unfold replace
  dsimp only
  split
  · split
    case h_1 hpattern => exact .found (exists_text_of_replacePattern hpattern)
    case h_2 => exact tells_refuse _ _ (fun _ _ => rfl) _
  · cases hpart : replacePart s (arguments.getD 0 .null) (arguments.getD 1 (.text "")) with
    | ok w => exact .found (exists_text_of_replacePart hpart)
    | error f => exact .failed f

theorem Builtin.tells_run_of_apply [Engines] {b : Builtin} {v : Value} {arguments : List Value}
    {found : Value → Prop} {standIn : Value} (h : (b.apply v arguments).Tells found standIn) :
    (b.run v arguments).Tells found standIn := by
  unfold run
  split
  · exact .failed _
  · exact h

/-- **One warning for what is not found.** Take any value, any text and any arguments. The filter
for dates fails, or gives a moment, both without a notice, or gives the empty value with exactly one
warning. On the text, the filter for sizes gives an integer, the one for matches a list of them and
the one for replacements a text, or they fail, without a notice; or they give the text itself with
exactly one warning. -/
theorem Builtin.tells_run (v : Value) (s : String) (arguments : List Value) :
    (date.run v arguments).Tells (fun w => ∃ m, w = .moment m) .null ∧
      (size.run (.text s) arguments).Tells (fun w => ∃ n, w = .int n) (.text s) ∧
      (regex.run (.text s) arguments).Tells (MatchesOf s arguments) (.text s) ∧
      (replace.run (.text s) arguments).Tells (fun w => ∃ t, w = .text t) (.text s) :=
  ⟨tells_run_of_apply (tells_date v arguments), tells_run_of_apply (tells_size s),
    tells_run_of_apply (tells_allMatches s arguments), tells_run_of_apply (tells_replace s arguments)⟩

end Filter

end Extraction
