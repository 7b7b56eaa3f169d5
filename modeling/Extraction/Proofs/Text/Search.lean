import Extraction.Text.Search
import Mathlib.Data.List.Basic

/-!
# Cutting and replacing from character to character

Cutting a text at a part, and replacing the occurrences of a part, may be read from left to right:
where the text starts with the part, there is a cut, and the rest is treated by itself; where it
does not, its first character goes to the first piece of the rest.

## Main results

* `Text.splitOn_of_afterLead?`, `Text.exists_splitOn_cons` : the pieces of a text.
* `Text.replaceAll_of_afterLead?`, `Text.replaceAll_cons` : a text with a part replaced.
* `Text.replaceAll_append_of_notMem` : a text before which there is one without the part.
* `Text.notMem_of_mem_splitOn` : what is cut out is in no piece.
* `Text.not_isInfix_of_cut?` : no occurrence of a part comes before the one at which a text is cut.
* `Text.joinWith_splitOn_eq`, `Text.not_isInfix_of_mem_splitOn` : the pieces give back the text, and
  the part occurs in none of them.
-/

namespace Extraction.Text

variable {p c : Char} {ps cs rest replacement : List Char}

theorem splitOn_ne_nil (p : Char) (ps s : List Char) : splitOn (p :: ps) s ≠ [] :=
  splitOnCons_ne_nil p ps s

theorem splitOn_of_cut?_eq_none {s : List Char} (h : cut? (p :: ps) s = none) :
    splitOn (p :: ps) s = [s] := by
  rw [splitOn, splitOnCons]
  split
  case h_1 => rfl
  case h_2 a b hcut =>
    rw [h] at hcut
    cases hcut

theorem splitOn_of_cut?_eq_some {s a b : List Char} (h : cut? (p :: ps) s = some (a, b)) :
    splitOn (p :: ps) s = a :: splitOn (p :: ps) b := by
  rw [splitOn, splitOnCons]
  split
  case h_1 hcut =>
    rw [h] at hcut
    cases hcut
  case h_2 a' b' hcut =>
    rw [h] at hcut
    cases hcut
    rfl

theorem splitOn_nil (p : Char) (ps : List Char) : splitOn (p :: ps) [] = [[]] :=
  splitOn_of_cut?_eq_none rfl

/-- Where a text starts with the part, an empty piece comes before those of the rest. -/
theorem splitOn_of_afterLead? (h : afterLead? (p :: ps) (c :: cs) = some rest) :
    splitOn (p :: ps) (c :: cs) = [] :: splitOn (p :: ps) rest :=
  splitOn_of_cut?_eq_some (by rw [cut?, h])

/-- Where a text does not start with the part, its first character belongs to the first piece. -/
theorem exists_splitOn_cons (h : afterLead? (p :: ps) (c :: cs) = none) :
    ∃ piece more, splitOn (p :: ps) cs = piece :: more ∧
      splitOn (p :: ps) (c :: cs) = (c :: piece) :: more := by
  have hcons : cut? (p :: ps) (c :: cs) =
      (cut? (p :: ps) cs).map fun sides => (c :: sides.1, sides.2) := by
    rw [cut?, h]
  cases hcut : cut? (p :: ps) cs with
  | none =>
    rw [hcut] at hcons
    exact ⟨cs, [], splitOn_of_cut?_eq_none hcut, splitOn_of_cut?_eq_none hcons⟩
  | some ab =>
    obtain ⟨a, b⟩ := ab
    rw [hcut] at hcons
    exact ⟨a, splitOn (p :: ps) b, splitOn_of_cut?_eq_some hcut, splitOn_of_cut?_eq_some hcons⟩

theorem joinWith_cons {piece : List Char} {more : List (List Char)} (h : more ≠ []) :
    joinWith replacement (piece :: more) = piece ++ replacement ++ joinWith replacement more := by
  cases more with
  | nil => exact absurd rfl h
  | cons next more => rfl

/-- The first character of the first piece is that of the whole. -/
theorem joinWith_cons_cons (piece : List Char) (more : List (List Char)) :
    joinWith replacement ((c :: piece) :: more) = c :: joinWith replacement (piece :: more) := by
  cases more <;> rfl

theorem replaceAll_nil (p : Char) (ps replacement : List Char) :
    replaceAll (p :: ps) replacement [] = [] := by
  rw [replaceAll, splitOn_nil]
  rfl

/-- Where a text starts with the part, there is the replacement. -/
theorem replaceAll_of_afterLead? (h : afterLead? (p :: ps) (c :: cs) = some rest) :
    replaceAll (p :: ps) replacement (c :: cs) =
      replacement ++ replaceAll (p :: ps) replacement rest := by
  rw [replaceAll, splitOn_of_afterLead? h, joinWith_cons (splitOn_ne_nil p ps rest),
    List.nil_append]
  rfl

/-- Where a text does not start with the part, its first character stays. -/
theorem replaceAll_cons (h : afterLead? (p :: ps) (c :: cs) = none) :
    replaceAll (p :: ps) replacement (c :: cs) = c :: replaceAll (p :: ps) replacement cs := by
  obtain ⟨piece, more, hcs, hcons⟩ := exists_splitOn_cons h
  rw [replaceAll, hcons, joinWith_cons_cons, replaceAll, hcs]

theorem afterLead?_of_ne (h : c ≠ p) : afterLead? (p :: ps) (c :: cs) = none :=
  if_neg (Ne.symm h)

/-- Characters that do not start the part stay. -/
theorem replaceAll_append_of_notMem {s : List Char} (h : p ∉ s) (cs : List Char) :
    replaceAll (p :: ps) replacement (s ++ cs) = s ++ replaceAll (p :: ps) replacement cs := by
  induction s with
  | nil => rfl
  | cons c s ih =>
    simp only [List.mem_cons, not_or] at h
    rw [List.cons_append, replaceAll_cons (afterLead?_of_ne (Ne.symm h.1)), ih h.2,
      List.cons_append]

/-! ### Characters of pieces -/

theorem mem_joinWith {pieces : List (List Char)} (h : c ∈ joinWith replacement pieces) :
    c ∈ replacement ∨ ∃ piece ∈ pieces, c ∈ piece := by
  induction pieces with
  | nil => cases h
  | cons piece more ih =>
    by_cases hmore : more = []
    · rw [hmore] at h
      exact .inr ⟨piece, List.mem_cons_self, h⟩
    · rw [joinWith_cons hmore, List.mem_append, List.mem_append] at h
      rcases h with (h | h) | h
      · exact .inr ⟨piece, List.mem_cons_self, h⟩
      · exact .inl h
      · exact (ih h).imp_right fun ⟨other, hother, hc⟩ => ⟨other, List.mem_cons_of_mem _ hother, hc⟩

theorem mem_joinWith_of_mem {pieces : List (List Char)} {piece : List Char}
    (h : piece ∈ pieces) (hc : c ∈ piece) : c ∈ joinWith replacement pieces := by
  induction pieces with
  | nil => cases h
  | cons first more ih =>
    by_cases hmore : more = []
    · rw [hmore] at h ⊢
      rwa [List.mem_singleton.1 h] at hc
    · rw [joinWith_cons hmore, List.mem_append, List.mem_append]
      rcases List.mem_cons.1 h with rfl | h
      · exact .inl (.inl hc)
      · exact .inr (ih h)

/-- The pieces of a text hold only characters of the text. -/
theorem mem_of_mem_splitOn {s piece : List Char} (h : piece ∈ splitOn (p :: ps) s)
    (hc : c ∈ piece) : c ∈ s := by
  rw [← joinWith_splitOn p ps s]
  exact mem_joinWith_of_mem h hc

/-- The pieces between the occurrences of a character do not hold this character. -/
theorem notMem_of_mem_splitOn {s piece : List Char} (h : piece ∈ splitOn [p] s) : p ∉ piece := by
  induction s generalizing piece with
  | nil =>
    rw [splitOn_nil, List.mem_singleton] at h
    rw [h]
    exact List.not_mem_nil
  | cons c cs ih =>
    by_cases hc : c = p
    · have hlead : afterLead? [p] (c :: cs) = some cs := if_pos hc.symm
      rw [splitOn_of_afterLead? hlead] at h
      rcases List.mem_cons.1 h with rfl | h
      · exact List.not_mem_nil
      · exact ih h
    · have hlead : afterLead? [p] (c :: cs) = none := afterLead?_of_ne hc
      obtain ⟨first, more, hcs, hcons⟩ := exists_splitOn_cons hlead
      rw [hcons] at h
      rw [hcs] at ih
      rcases List.mem_cons.1 h with rfl | h
      · exact List.not_mem_cons_of_ne_of_not_mem (Ne.symm hc) (ih List.mem_cons_self)
      · exact ih (List.mem_cons_of_mem _ h)

/-! ### Occurrences of the part -/

theorem afterLead?_eq_none {part s : List Char} : afterLead? part s = none ↔ ¬part <+: s := by
  rw [Option.eq_none_iff_forall_ne_some]
  constructor
  · rintro h ⟨r, rfl⟩
    exact h r (afterLead?_eq_some.2 rfl)
  · rintro h r hr
    exact h ⟨r, (afterLead?_eq_some.1 hr).symm⟩

/-- A text that is not cut has no occurrence of the part. -/
theorem not_isInfix_of_cut?_eq_none {part s : List Char} (h : cut? part s = none) :
    ¬part <:+: s := by
  induction s with
  | nil =>
    rw [cut?] at h
    split_ifs at h with hpart
    rwa [List.infix_nil]
  | cons c cs ih =>
    rw [cut?] at h
    split at h
    · cases h
    · rename_i hlead
      rw [List.infix_cons_iff, not_or]
      exact ⟨afterLead?_eq_none.1 hlead, ih (Option.map_eq_none_iff.1 h)⟩

/-- Before the occurrence at which a text is cut there is no other one. -/
theorem not_isInfix_of_cut? {part s a b : List Char} (hpart : part ≠ [])
    (h : cut? part s = some (a, b)) : ¬part <:+: a := by
  induction s generalizing a with
  | nil => simp [cut?, hpart] at h
  | cons c cs ih =>
    rw [cut?] at h
    split at h
    · obtain ⟨rfl, -⟩ := Prod.mk.inj (Option.some.inj h)
      rwa [List.infix_nil]
    · rename_i hlead
      obtain ⟨⟨a', b'⟩, hcut, heq⟩ := Option.map_eq_some_iff.1 h
      obtain ⟨rfl, rfl⟩ := Prod.mk.inj heq
      rw [List.infix_cons_iff, not_or]
      refine ⟨fun hfirst => afterLead?_eq_none.1 hlead ?_, ih hcut⟩
      rw [cut?_eq_some hcut, List.append_assoc, ← List.cons_append]
      exact hfirst.trans (List.prefix_append _ _)

/-- The pieces between the occurrences of a part have no occurrence of it. -/
theorem not_isInfix_of_mem_splitOn {s piece : List Char} (h : piece ∈ splitOn (p :: ps) s) :
    ¬(p :: ps) <:+: piece := by
  change piece ∈ splitOnCons p ps s at h
  fun_induction splitOnCons p ps s with
  | case1 s hcut =>
    rw [List.mem_singleton.1 h]
    exact not_isInfix_of_cut?_eq_none hcut
  | case2 s a b hcut ih =>
    rcases List.mem_cons.1 h with rfl | h
    · exact not_isInfix_of_cut? (List.cons_ne_nil p ps) hcut
    · exact ih h

/-- Joining the pieces between the occurrences of any part gives back the text. -/
theorem joinWith_splitOn_eq (part s : List Char) : joinWith part (splitOn part s) = s := by
  cases part with
  | cons p ps => exact joinWith_splitOn p ps s
  | nil =>
    induction s with
    | nil => rfl
    | cons c s ih =>
      change joinWith [] ([c] :: splitOn [] s) = c :: s
      cases s with
      | nil => rfl
      | cons d s => exact congrArg (c :: ·) ih

end Extraction.Text
