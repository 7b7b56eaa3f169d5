import Extraction.Pattern.Replacement
import Extraction.Proofs.Text.Search
import Mathlib.Data.List.TakeWhile

/-!
# What replacement texts mean

A replacement text is read once from left to right: a dollar sign with a number refers to a group,
a dollar sign with an ampersand to the whole match, and every other character, be it a dollar sign
or a backslash, stands for itself. The template of the text, which three passes over the text make,
says the same part by part: a backslash before a backslash, a marked reference, or the character.
So it is read back as these parts, unless a number is too long or is that of no group.

## Main definitions

* `Pattern.Part` : a part of a replacement text, with `Pattern.Part.text`.
* `Pattern.partsOf` : the parts of a replacement text.
* `Pattern.substitute` : the text that a replacement text stands for at a match.
* `Pattern.Part.Fits` : a part refers to no group that there is not.

## Main results

* `Pattern.templateOf_eq` : the template of a replacement text, part by part.
* `Pattern.readTemplate_templateOf` : the pieces of the template.
* `Pattern.expand_pieces` : what the pieces stand for.
-/

namespace Extraction.Pattern

open Text

/-- A part of a replacement text. -/
inductive Part where
  /-- A character that stands for itself. -/
  | char (c : Char)
  /-- The whole match. -/
  | whole
  /-- The group of the number that digits write. -/
  | number (digits : List Char)
  deriving DecidableEq, Repr

/-- The parts of a replacement text. A number goes on as far as there are digits. -/
def partsOf : List Char → List Part
  | [] => []
  | '$' :: '&' :: rest => .whole :: partsOf rest
  | c :: rest =>
    if c = '$' ∧ rest.takeWhile isDigit ≠ [] then
      .number (rest.takeWhile isDigit) :: partsOf (rest.dropWhile isDigit)
    else .char c :: partsOf rest
termination_by s => s.length
decreasing_by
  · simp only [List.length_cons]
    omega
  · have := (List.dropWhile_suffix isDigit (l := rest)).length_le
    simp only [List.length_cons]
    omega
  · simp

/-- A part whose number, if it has one, is a run of digits. -/
def Part.Proper : Part → Prop
  | .number digits => digits ≠ [] ∧ ∀ c ∈ digits, isDigit c = true
  | _ => True

/-- The text that a part stands for at a match; a group that has not matched is empty. -/
def Part.text (m : Match) : Part → List Char
  | .char c => [c]
  | .whole => m.text
  | .number digits => (m.group? (Decimal.digitsValue digits)).getD []

/-- The text that a replacement text stands for at a match. -/
def substitute (m : Match) (s : List Char) : List Char :=
  (partsOf s).flatMap (Part.text m)

/-- The template of a part. -/
def Part.template : Part → List Char
  | .char c => if c = '\\' then ['\\', '\\'] else [c]
  | .whole => "\\g<0>".toList
  | .number digits => "\\g<".toList ++ digits ++ ['>']

/-- The piece that the template of a part is read as. -/
def Part.piece : Part → Piece
  | .char c => .char c
  | .whole => .group 0
  | .number digits => .group (Decimal.digitsValue digits)

/-- A part is a character, or the number of a group that a pattern has, with no more digits than
can be read. -/
def Part.Fits (groups : Nat) : Part → Prop
  | .char _ | .whole => True
  | .number digits => digits.length ≤ 4300 ∧ Decimal.digitsValue digits ≤ groups

/-- A dollar sign with digits up to something that is none is one part. -/
theorem partsOf_number {digits rest : List Char} (hne : digits ≠ [])
    (hdigits : ∀ c ∈ digits, isDigit c = true) (hrest : rest.takeWhile isDigit = []) :
    partsOf ('$' :: (digits ++ rest)) = .number digits :: partsOf rest := by
  have htake : (digits ++ rest).takeWhile isDigit = digits := by
    rw [List.takeWhile_append_of_pos hdigits, hrest, List.append_nil]
  have hdrop : (digits ++ rest).dropWhile isDigit = rest := by
    have hsplit := List.takeWhile_append_dropWhile (p := isDigit) (l := rest)
    rw [hrest, List.nil_append] at hsplit
    rw [List.dropWhile_append_of_pos hdigits, hsplit]
  rw [partsOf, htake, if_pos ⟨rfl, hne⟩, hdrop]
  intro t _ heq
  rw [heq] at htake
  exact hne htake.symm

/-- The number of a reference goes on over digits and nothing else. -/
theorem proper_of_mem_partsOf {s : List Char} {p : Part} (h : p ∈ partsOf s) : p.Proper := by
  fun_induction partsOf s with
  | case1 => cases h
  | case2 rest ih =>
    rcases List.mem_cons.1 h with rfl | h
    · trivial
    · exact ih h
  | case3 c rest hne hnumber ih =>
    rcases List.mem_cons.1 h with rfl | h
    · exact ⟨hnumber.2, fun c hc => List.mem_takeWhile_imp hc⟩
    · exact ih h
  | case4 c rest hne hnumber ih =>
    rcases List.mem_cons.1 h with rfl | h
    · trivial
    · exact ih h

/-! ### The three passes -/

/-- A text with every backslash doubled. -/
def doubled (s : List Char) : List Char :=
  s.flatMap fun c => (Part.char c).template

theorem doubled_cons (c : Char) (s : List Char) :
    doubled (c :: s) = (Part.char c).template ++ doubled s :=
  List.flatMap_cons

theorem template_of_ne {c : Char} (h : c ≠ '\\') : (Part.char c).template = [c] :=
  if_neg h

theorem replaceAll_backslash (s : List Char) :
    replaceAll ['\\'] ['\\', '\\'] s = doubled s := by
  induction s with
  | nil => exact replaceAll_nil _ _ _
  | cons c s ih =>
    by_cases h : c = '\\'
    · subst h
      rw [replaceAll_of_afterLead? rfl, ih]
      rfl
    · rw [replaceAll_cons (afterLead?_of_ne h), ih, doubled_cons, template_of_ne h]
      rfl

theorem templateOf_eq_replaceAll (s : List Char) :
    templateOf s =
      replaceAll ['$', '&'] ['\\', 'g', '<', '0', '>'] (markNumbers (doubled s)) := by
  rw [templateOf, replaceAll_backslash]
  rfl

/-- The digits at the start of a text are not touched by doubling, nor does it make any. -/
theorem takeWhile_doubled (s : List Char) :
    (doubled s).takeWhile isDigit = s.takeWhile isDigit ∧
      (doubled s).dropWhile isDigit = doubled (s.dropWhile isDigit) := by
  induction s with
  | nil => exact ⟨rfl, rfl⟩
  | cons c s ih =>
    cases hc : isDigit c with
    | true =>
      have hne : c ≠ '\\' := by
        rintro rfl
        cases hc
      simp only [doubled_cons, template_of_ne hne, List.singleton_append,
        List.takeWhile_cons_of_pos hc, List.dropWhile_cons_of_pos hc, ih, and_self]
    | false =>
      have hhead : ∃ t, doubled (c :: s) = c :: t := by
        rw [doubled_cons, Part.template]
        split_ifs with h
        · exact ⟨_, by rw [h]; rfl⟩
        · exact ⟨_, rfl⟩
      obtain ⟨t, ht⟩ := hhead
      have hneg : ¬isDigit c = true := by simp [hc]
      rw [List.takeWhile_cons_of_neg hneg, List.dropWhile_cons_of_neg hneg, ht,
        List.takeWhile_cons_of_neg hneg, List.dropWhile_cons_of_neg hneg]
      exact ⟨rfl, rfl⟩

/-- A dollar sign with a number is marked. -/
theorem markNumbers_number {s : List Char} (h : s.takeWhile isDigit ≠ []) :
    markNumbers ('$' :: s) = '\\' :: 'g' :: '<' :: s.takeWhile isDigit ++
      '>' :: markNumbers (s.dropWhile isDigit) := by
  rw [markNumbers, if_pos ⟨rfl, h⟩]
  rfl

/-- Any other character is left as it is. -/
theorem markNumbers_cons {c : Char} {s : List Char} (h : ¬(c = '$' ∧ s.takeWhile isDigit ≠ [])) :
    markNumbers (c :: s) = c :: markNumbers s := by
  rw [markNumbers, if_neg h]

/-- Marking puts no ampersand in front. -/
theorem head?_markNumbers {s : List Char} (h : s.head? ≠ some '&') :
    (markNumbers s).head? ≠ some '&' := by
  cases s with
  | nil => simp [markNumbers]
  | cons c s =>
    rw [markNumbers]
    split_ifs
    · simp
    · exact h

theorem head?_doubled {s : List Char} (h : s.head? ≠ some '&') : (doubled s).head? ≠ some '&' := by
  cases s with
  | nil => exact h
  | cons c s =>
    rw [doubled_cons, Part.template]
    split_ifs
    · simp
    · exact h

theorem afterLead?_ampersand {s : List Char} (h : s.head? ≠ some '&') :
    afterLead? ['$', '&'] ('$' :: s) = none := by
  cases s with
  | nil => rfl
  | cons c s =>
    have hc : c ≠ '&' := fun heq => h (congrArg some heq)
    rw [afterLead?, if_pos rfl, afterLead?_of_ne hc]

/-- A dollar sign with an ampersand is marked as the whole match. -/
theorem templateOf_whole (rest : List Char) :
    templateOf ('$' :: '&' :: rest) = Part.whole.template ++ templateOf rest := by
  have hdigits : ∀ t : List Char, ¬('$' = '$' ∧ ('&' :: t).takeWhile isDigit ≠ []) :=
    fun t h => h.2 rfl
  have hmarked : markNumbers (doubled ('$' :: '&' :: rest)) =
      '$' :: '&' :: markNumbers (doubled rest) := by
    rw [doubled_cons, doubled_cons]
    exact (markNumbers_cons (hdigits _)).trans
      (congrArg ('$' :: ·) (markNumbers_cons fun h => absurd h.1 (by decide)))
  rw [templateOf_eq_replaceAll, templateOf_eq_replaceAll, hmarked, replaceAll_of_afterLead? rfl]
  rfl

/-- A dollar sign with a number is marked as the group of this number. -/
theorem templateOf_number {rest : List Char} (h : rest.takeWhile isDigit ≠ []) :
    templateOf ('$' :: rest) =
      (Part.number (rest.takeWhile isDigit)).template ++ templateOf (rest.dropWhile isDigit) := by
  have hrest := takeWhile_doubled rest
  have hmarked : markNumbers (doubled ('$' :: rest)) =
      (Part.number (rest.takeWhile isDigit)).template ++
        markNumbers (doubled (rest.dropWhile isDigit)) := by
    rw [doubled_cons, template_of_ne (by decide), List.singleton_append,
      markNumbers_number (by rwa [hrest.1]), hrest.1, hrest.2]
    simp [Part.template]
  -- the last pass finds nothing in the mark
  have hsign : '$' ∉ (Part.number (rest.takeWhile isDigit)).template := by
    intro hmem
    simp only [Part.template, List.mem_append, List.mem_singleton] at hmem
    rcases hmem with (hmem | hmem) | hmem
    · revert hmem
      decide
    · exact absurd (List.mem_takeWhile_imp hmem) (by decide)
    · cases hmem
  rw [templateOf_eq_replaceAll, templateOf_eq_replaceAll, hmarked,
    replaceAll_append_of_notMem hsign]

/-- A backslash is doubled, and the later passes leave both. -/
theorem templateOf_backslash (rest : List Char) :
    templateOf ('\\' :: rest) = (Part.char '\\').template ++ templateOf rest := by
  have hmarked : markNumbers (doubled ('\\' :: rest)) =
      '\\' :: '\\' :: markNumbers (doubled rest) := by
    show markNumbers ('\\' :: '\\' :: doubled rest) = _
    rw [markNumbers_cons (by simp), markNumbers_cons (by simp)]
  rw [templateOf_eq_replaceAll, templateOf_eq_replaceAll, hmarked,
    replaceAll_cons (afterLead?_of_ne (by simp)), replaceAll_cons (afterLead?_of_ne (by simp))]
  rfl

/-- A character that is no backslash, and no dollar sign before a number or an ampersand, is left by
all passes. -/
theorem templateOf_char {c : Char} {rest : List Char} (hslash : c ≠ '\\')
    (hwhole : c = '$' → rest.head? ≠ some '&')
    (hnumber : ¬(c = '$' ∧ rest.takeWhile isDigit ≠ [])) :
    templateOf (c :: rest) = (Part.char c).template ++ templateOf rest := by
  have hmarked : markNumbers (doubled (c :: rest)) = c :: markNumbers (doubled rest) := by
    rw [doubled_cons, template_of_ne hslash, List.singleton_append]
    exact markNumbers_cons (by rwa [(takeWhile_doubled rest).1])
  have hlead : afterLead? ['$', '&'] (c :: markNumbers (doubled rest)) = none := by
    by_cases hsign : c = '$'
    · subst hsign
      exact afterLead?_ampersand (head?_markNumbers (head?_doubled (hwhole rfl)))
    · exact afterLead?_of_ne hsign
  rw [templateOf_eq_replaceAll, templateOf_eq_replaceAll, hmarked, replaceAll_cons hlead,
    template_of_ne hslash, List.singleton_append]

/-- **The template of a replacement text** says the same part by part. -/
theorem templateOf_eq (s : List Char) : templateOf s = (partsOf s).flatMap Part.template := by
  fun_induction partsOf s with
  | case1 =>
    rw [templateOf_eq_replaceAll, doubled, List.flatMap_nil, markNumbers, replaceAll_nil,
      List.flatMap_nil]
  | case2 rest ih => rw [templateOf_whole, ih, List.flatMap_cons]
  | case3 c rest hne h ih =>
    obtain ⟨rfl, h⟩ := h
    rw [templateOf_number h, ih, List.flatMap_cons]
  | case4 c rest hne h ih =>
    rw [List.flatMap_cons, ← ih]
    by_cases hslash : c = '\\'
    · subst hslash
      exact templateOf_backslash rest
    · have hwhole (hsign : c = '$') : rest.head? ≠ some '&' := by
        intro hhead
        obtain ⟨t, ht⟩ := List.head?_eq_some_iff.1 hhead
        exact hne t hsign ht
      exact templateOf_char hslash hwhole h

/-! ### The pieces -/

/-- A marked number is read as a piece, unless it has too many digits or is that of no group. -/
theorem readTemplate_number {digits : List Char} (hne : digits ≠ [])
    (hdigits : ∀ c ∈ digits, isDigit c = true) (groups : Nat) (rest : List Char) :
    readTemplate groups ((Part.number digits).template ++ rest) =
      if digits.length > 4300 then .error (.malformed "a bad group name")
      else if Decimal.digitsValue digits > groups then .error (.malformed "an unknown group")
      else (readTemplate groups rest).map (Piece.group (Decimal.digitsValue digits) :: ·) := by
  have hstop : ∀ c ∈ digits, (decide (c ≠ '>')) = true := by
    intro c hc
    rw [decide_eq_true_eq]
    rintro rfl
    cases hdigits _ hc
  have htake : (digits ++ '>' :: rest).takeWhile (fun c => decide (c ≠ '>')) = digits := by
    rw [List.takeWhile_append_of_pos hstop, List.takeWhile_cons_of_neg (by simp), List.append_nil]
  have hdrop : (digits ++ '>' :: rest).dropWhile (fun c => decide (c ≠ '>')) = '>' :: rest := by
    rw [List.dropWhile_append_of_pos hstop, List.dropWhile_cons_of_neg (by simp)]
  have hall : digits.all isDigit = true := List.all_eq_true.2 hdigits
  have htemplate : (Part.number digits).template ++ rest =
      '\\' :: 'g' :: '<' :: (digits ++ '>' :: rest) := by
    simp [Part.template]
  rw [htemplate, readTemplate]
  simp only [htake, hdrop, hall, List.isEmpty_eq_false_iff.2 hne, Bool.not_true, Bool.false_or,
    decide_eq_true_eq, List.drop_one, List.tail_cons]

/-- A character is read as a piece. -/
theorem readTemplate_char (c : Char) (groups : Nat) (rest : List Char) :
    readTemplate groups ((Part.char c).template ++ rest) =
      (readTemplate groups rest).map (Piece.char c :: ·) := by
  by_cases h : c = '\\'
  · subst h
    show readTemplate groups ('\\' :: '\\' :: rest) = _
    rw [readTemplate]
  · rw [template_of_ne h, List.singleton_append, readTemplate]
    all_goals simp [h]

/-- The whole match is read as a piece. -/
theorem readTemplate_whole (groups : Nat) (rest : List Char) :
    readTemplate groups (Part.whole.template ++ rest) =
      (readTemplate groups rest).map (Piece.group 0 :: ·) := by
  have hzero : ∀ c ∈ ['0'], isDigit c = true := List.forall_mem_singleton.2 rfl
  exact readTemplate_number (List.cons_ne_nil _ _) hzero groups rest

/-- A part that fits is read as its piece. -/
theorem readTemplate_of_fits {groups : Nat} {p : Part} (hp : p.Proper) (hfits : p.Fits groups)
    (rest : List Char) :
    readTemplate groups (p.template ++ rest) =
      (readTemplate groups rest).map (p.piece :: ·) := by
  cases p with
  | char c => exact readTemplate_char c groups rest
  | whole => exact readTemplate_whole groups rest
  | number digits =>
    rw [readTemplate_number hp.1 hp.2, if_neg (Nat.not_lt.2 hfits.1), if_neg (Nat.not_lt.2 hfits.2)]
    rfl

/-- A part that does not fit cannot be read. -/
theorem readTemplate_of_not_fits {groups : Nat} {p : Part} (hp : p.Proper) (hfits : ¬p.Fits groups)
    (rest : List Char) :
    ∃ reason, readTemplate groups (p.template ++ rest) = .error (.malformed reason) := by
  cases p with
  | char c => exact absurd trivial hfits
  | whole => exact absurd trivial hfits
  | number digits =>
    rw [readTemplate_number hp.1 hp.2]
    split_ifs with hlong hgroup
    · exact ⟨_, rfl⟩
    · exact ⟨_, rfl⟩
    · exact absurd ⟨Nat.not_lt.1 hlong, Nat.not_lt.1 hgroup⟩ hfits

/-- Parts that fit are read as their pieces. -/
theorem readTemplate_of_forall {groups : Nat} {parts : List Part} (hparts : ∀ p ∈ parts, p.Proper)
    (hfits : ∀ p ∈ parts, p.Fits groups) :
    readTemplate groups (parts.flatMap Part.template) = .ok (parts.map Part.piece) := by
  induction parts with
  | nil => rw [List.flatMap_nil, readTemplate, List.map_nil]
  | cons p parts ih =>
    obtain ⟨hp, hparts⟩ := List.forall_mem_cons.1 hparts
    obtain ⟨hfit, hfits⟩ := List.forall_mem_cons.1 hfits
    rw [List.flatMap_cons, readTemplate_of_fits hp hfit, ih hparts hfits]
    rfl

/-- Parts one of which does not fit cannot be read. -/
theorem readTemplate_of_exists {groups : Nat} {parts : List Part} (hparts : ∀ p ∈ parts, p.Proper)
    (hfits : ∃ p ∈ parts, ¬p.Fits groups) :
    ∃ reason, readTemplate groups (parts.flatMap Part.template) = .error (.malformed reason) := by
  induction parts with
  | nil =>
    obtain ⟨p, hp, -⟩ := hfits
    cases hp
  | cons p parts ih =>
    obtain ⟨hp, hparts⟩ := List.forall_mem_cons.1 hparts
    rw [List.flatMap_cons]
    by_cases h : p.Fits groups
    · obtain ⟨q, hq, hnot⟩ := hfits
      have hmem : q ∈ parts := (List.mem_cons.1 hq).resolve_left fun heq => hnot (heq ▸ h)
      obtain ⟨reason, htail⟩ := ih hparts ⟨q, hmem, hnot⟩
      exact ⟨reason, by rw [readTemplate_of_fits hp h, htail]; rfl⟩
    · exact readTemplate_of_not_fits hp h _

/-- **The pieces of a template** are those of the parts of the replacement text, if they fit. -/
theorem readTemplate_templateOf {groups : Nat} {s : List Char}
    (h : ∀ p ∈ partsOf s, p.Fits groups) :
    readTemplate groups (templateOf s) = .ok ((partsOf s).map Part.piece) := by
  rw [templateOf_eq]
  exact readTemplate_of_forall (fun _ => proper_of_mem_partsOf) h

/-- A template is refused if a part of the replacement text does not fit. -/
theorem exists_readTemplate_templateOf {groups : Nat} {s : List Char}
    (h : ∃ p ∈ partsOf s, ¬p.Fits groups) :
    ∃ reason, readTemplate groups (templateOf s) = .error (.malformed reason) := by
  rw [templateOf_eq]
  exact readTemplate_of_exists (fun _ => proper_of_mem_partsOf) h

/-- The pieces of the parts stand for what the replacement text stands for. -/
theorem expand_pieces (m : Match) (s : List Char) :
    expand m ((partsOf s).map Part.piece) = substitute m s := by
  rw [expand, substitute, List.flatMap_map]
  congr 1
  funext p
  cases p <;> rfl

end Extraction.Pattern
