import Mathlib.Data.List.TakeWhile
import Extraction.Text.Blank
import Extraction.Text.Word

/-!
# Blanks and trimming

There are twenty-nine blanks, and none of them is part of a word. A text is trimmed if it neither
begins nor ends with a blank. Trimming gives such a text and leaves it as it is, and blanks around a
text do not change what trimming makes of it.

## Main definitions

* `Text.blankCodes` : the code points of the blanks.
* `Text.Trimmed` : a text that neither begins nor ends with a blank.

## Main results

* `Text.isWord_of_isBlank` : a blank is not part of a word.
* `Text.trim_append_blanks` : blanks around a text are trimmed away.
* `Text.Trimmed.trim_eq`, `Text.trimmed_trim` : the trimmed texts are those that trimming gives.
-/

namespace Extraction.Text

/-- A character that is not of a kind is not in a text of that kind. -/
theorem notMem_of_all {f : Char → Bool} {s : List Char} (hs : s.all f = true) {c : Char}
    (hc : f c = false) : c ∉ s := fun h => by
  rw [List.all_eq_true.1 hs c h] at hc
  cases hc

/-! ### Blanks -/

/-- The code points of the blanks. -/
def blankCodes : List Nat :=
  [9, 10, 11, 12, 13, 28, 29, 30, 31, 32, 133, 160, 5760, 8192, 8193, 8194, 8195, 8196, 8197, 8198,
    8199, 8200, 8201, 8202, 8232, 8233, 8239, 8287, 12288]

theorem mem_blankCodes {c : Char} (hc : isBlank c = true) : c.toNat ∈ blankCodes := by
  simp only [isBlank, Ranges.contains, blankRanges, Ranges.containsCode, Bool.and_eq_true,
    Bool.or_eq_true, decide_eq_true_eq, Bool.false_eq_true, or_false] at hc
  simp only [blankCodes, List.mem_cons, List.not_mem_nil, or_false]
  omega

/-- A blank is not part of a word. -/
theorem isWord_of_isBlank {c : Char} (hc : isBlank c = true) : isWord c = false := by
  have h : ∀ n ∈ blankCodes, Ranges.containsCode wordRanges.intervals n = false := by
    decide +kernel
  exact h c.toNat (mem_blankCodes hc)

/-- A text that neither begins nor ends with a blank. -/
structure Trimmed (s : List Char) : Prop where
  head : ∀ c ∈ s.head?, isBlank c = false
  last : ∀ c ∈ s.getLast?, isBlank c = false

theorem trimmed_iff {s : List Char} :
    Trimmed s ↔ s.head?.any isBlank = false ∧ s.getLast?.any isBlank = false := by
  have h (o : Option Char) : (∀ c ∈ o, isBlank c = false) ↔ o.any isBlank = false := by
    cases o <;> simp
  rw [← h, ← h]
  exact ⟨fun hs => ⟨hs.head, hs.last⟩, fun hs => ⟨hs.1, hs.2⟩⟩

instance decidableTrimmed (s : List Char) : Decidable (Trimmed s) :=
  decidable_of_iff' _ trimmed_iff

theorem trimmed_of_forall {s : List Char} (h : ∀ c ∈ s, isBlank c = false) : Trimmed s :=
  ⟨fun c hc => h c (List.mem_of_head? hc), fun c hc => h c (List.mem_of_getLast? hc)⟩

theorem trimmed_nil : Trimmed [] :=
  ⟨by simp, by simp⟩

/-! ### Blanks at the ends -/

theorem trimStart_append_of_blank {w : List Char} (hw : allBlank w = true) (s : List Char) :
    trimStart (w ++ s) = trimStart s :=
  List.dropWhile_append_of_pos (List.all_eq_true.1 hw)

theorem trimEnd_append_of_blank {w : List Char} (hw : allBlank w = true) (s : List Char) :
    trimEnd (s ++ w) = trimEnd s := by
  have hrev : ∀ c ∈ w.reverse, isBlank c = true := fun c hc =>
    List.all_eq_true.1 hw c (List.mem_reverse.1 hc)
  rw [trimEnd, List.reverse_append, List.dropWhile_append_of_pos hrev, ← trimEnd]

theorem trimEnd_isPrefix (s : List Char) : trimEnd s <+: s := by
  have hsuffix := List.dropWhile_suffix isBlank (l := s.reverse)
  rw [trimEnd]
  simpa using List.reverse_prefix.2 hsuffix

theorem trimStart_eq_nil_iff {s : List Char} : trimStart s = [] ↔ allBlank s = true := by
  rw [trimStart, List.dropWhile_eq_nil_iff, allBlank, List.all_eq_true]

/-- Nothing after a text matters for its start, unless there are only blanks. -/
theorem trimStart_append {s : List Char} (h : trimStart s ≠ []) (t : List Char) :
    trimStart (s ++ t) = trimStart s ++ t := by
  rw [trimStart, List.dropWhile_append, if_neg (by simpa [trimStart] using h), ← trimStart]

theorem trimEnd_of_allBlank {w : List Char} (hw : allBlank w = true) : trimEnd w = [] :=
  trimEnd_append_of_blank hw []

theorem trimStart_cons_of_blank {c : Char} (hc : isBlank c = true) (s : List Char) :
    trimStart (c :: s) = trimStart s :=
  List.dropWhile_cons_of_pos hc

theorem trimStart_cons_of_not_blank {c : Char} (hc : isBlank c = false) (s : List Char) :
    trimStart (c :: s) = c :: s :=
  List.dropWhile_cons_of_neg (by simp [hc])

/-- The first character of a text stays in front, unless there are only blanks. -/
theorem trimEnd_cons (c : Char) (s : List Char) :
    trimEnd (c :: s) = if isBlank c = true ∧ allBlank s = true then [] else c :: trimEnd s := by
  have hblank : (s.reverse.dropWhile isBlank).isEmpty = allBlank s := by
    rw [Bool.eq_iff_iff, List.isEmpty_iff, ← trimStart, trimStart_eq_nil_iff, allBlank,
      List.all_reverse]
    rfl
  rw [trimEnd, List.reverse_cons, List.dropWhile_append, hblank, trimEnd]
  cases hs : allBlank s with
  | true =>
    have hnil : s.reverse.dropWhile isBlank = [] := by rw [← List.isEmpty_iff, hblank, hs]
    cases hc : isBlank c <;> simp [hc, hnil]
  | false => simp

theorem trimEnd_concat_of_blank {c : Char} (hc : isBlank c = true) (s : List Char) :
    trimEnd (s ++ [c]) = trimEnd s :=
  trimEnd_append_of_blank (w := [c]) (by simpa [allBlank] using hc) s

theorem trimEnd_concat_of_not_blank {c : Char} (hc : isBlank c = false) (s : List Char) :
    trimEnd (s ++ [c]) = s ++ [c] := by
  rw [trimEnd, List.reverse_append, List.reverse_singleton, List.singleton_append,
    List.dropWhile_cons_of_neg (by simp [hc]), List.reverse_cons, List.reverse_reverse]

/-- Blanks around a text are trimmed away. -/
theorem trim_append_blanks {w w' : List Char} (hw : allBlank w = true) (hw' : allBlank w' = true)
    (s : List Char) : trim (w ++ s ++ w') = trim s := by
  rw [trim, List.append_assoc, trimStart_append_of_blank hw]
  cases h : allBlank s with
  | true =>
    rw [trimStart_append_of_blank h, trim, trimStart_eq_nil_iff.2 h, trimStart_eq_nil_iff.2 hw']
  | false =>
    have hne : trimStart s ≠ [] := fun hnil => by
      rw [trimStart_eq_nil_iff.1 hnil] at h
      cases h
    rw [trimStart_append hne, trimEnd_append_of_blank hw', ← trim]

theorem trim_append_blank {w : List Char} (hw : allBlank w = true) (s : List Char) :
    trim (s ++ w) = trim s :=
  trim_append_blanks (w := []) rfl hw s

theorem trim_blank_append {w : List Char} (hw : allBlank w = true) (s : List Char) :
    trim (w ++ s) = trim s := by
  have h := trim_append_blanks hw (show allBlank [] = true from rfl) s
  rwa [List.append_nil] at h

/-! ### Trimmed texts -/

theorem trimStart_eq_self {s : List Char} (h : ∀ c ∈ s.head?, isBlank c = false) :
    trimStart s = s := by
  cases s with
  | nil => rfl
  | cons c s => rw [trimStart, List.dropWhile_cons_of_neg (by simp [h c (by simp)])]

theorem trimEnd_eq_self {s : List Char} (h : ∀ c ∈ s.getLast?, isBlank c = false) :
    trimEnd s = s := by
  have hrev : trimStart s.reverse = s.reverse :=
    trimStart_eq_self fun c hc => h c (by rwa [List.head?_reverse] at hc)
  rw [trimEnd, ← trimStart, hrev, List.reverse_reverse]

/-- A trimmed text is left as it is. -/
theorem Trimmed.trim_eq {s : List Char} (h : Trimmed s) : trim s = s := by
  rw [trim, trimStart_eq_self h.head, trimEnd_eq_self h.last]

/-- What stands between two trimmed texts does not matter for the ends. -/
theorem Trimmed.append_between {s t : List Char} (hs : Trimmed s) (hs' : s ≠ []) (ht : Trimmed t)
    (ht' : t ≠ []) (w : List Char) : Trimmed (s ++ w ++ t) where
  head c hc := by
    obtain ⟨a, s, rfl⟩ := List.exists_cons_of_ne_nil hs'
    exact hs.head c hc
  last c hc := by
    rw [List.getLast?_append, Option.mem_def] at hc
    cases h : t.getLast? with
    | none => exact absurd (List.getLast?_eq_none_iff.1 h) ht'
    | some b => exact ht.last c (h.trans (by rwa [h, Option.some_or] at hc))

/-- A text between two characters that are no blanks is trimmed. -/
theorem trimmed_cons_append {a b : Char} (ha : isBlank a = false) (hb : isBlank b = false)
    (s : List Char) : Trimmed (a :: s ++ [b]) := by
  have hsingle {c : Char} (hc : isBlank c = false) : Trimmed [c] := trimmed_iff.2 ⟨hc, hc⟩
  exact (hsingle ha).append_between (by simp) (hsingle hb) (by simp) s

theorem Trimmed.append {s t : List Char} (hs : Trimmed s) (ht : Trimmed t) : Trimmed (s ++ t) where
  head c hc := by
    rw [List.head?_append, Option.mem_def] at hc
    cases h : s.head? with
    | none => exact ht.head c (by rwa [h, Option.none_or] at hc)
    | some d => exact hs.head c (h.trans (by rwa [h, Option.some_or] at hc))
  last c hc := by
    rw [List.getLast?_append, Option.mem_def] at hc
    cases h : t.getLast? with
    | none => exact hs.last c (by rwa [h, Option.none_or] at hc)
    | some d => exact ht.last c (h.trans (by rwa [h, Option.some_or] at hc))

theorem isBlank_head_trimStart (s : List Char) : ∀ c ∈ (trimStart s).head?, isBlank c = false := by
  intro c hc
  have h := List.head?_dropWhile_not isBlank s
  rw [trimStart] at hc
  rw [Option.mem_def.1 hc] at h
  simpa using h

theorem allBlank_trimStart (s : List Char) : allBlank (trimStart s) = allBlank s := by
  rw [Bool.eq_iff_iff, ← trimStart_eq_nil_iff, ← trimStart_eq_nil_iff,
    trimStart_eq_self (isBlank_head_trimStart s)]

/-- Trimming gives a trimmed text. -/
theorem trimmed_trim (s : List Char) : Trimmed (trim s) where
  head c hc := by
    obtain ⟨w, hw⟩ : trim s <+: trimStart s := trimEnd_isPrefix (trimStart s)
    refine isBlank_head_trimStart s c ?_
    rw [← hw, Option.mem_def, List.head?_append, Option.mem_def.1 hc, Option.some_or]
  last c hc := by
    rw [trim, trimEnd, List.getLast?_reverse] at hc
    exact isBlank_head_trimStart _ c hc

theorem allBlank_takeWhile (s : List Char) : allBlank (s.takeWhile isBlank) = true :=
  List.all_eq_true.2 fun _ hc => List.mem_takeWhile_imp hc

/-- Blanks come before what is left of a text without its leading ones. -/
theorem exists_blank_trimStart (s : List Char) : ∃ w, allBlank w = true ∧ s = w ++ trimStart s :=
  ⟨s.takeWhile isBlank, allBlank_takeWhile s, List.takeWhile_append_dropWhile.symm⟩

/-- Blanks come after what is left of a text without its trailing ones. -/
theorem exists_blank_trimEnd (s : List Char) : ∃ w, allBlank w = true ∧ s = trimEnd s ++ w := by
  refine ⟨(s.reverse.takeWhile isBlank).reverse, ?_, ?_⟩
  · rw [allBlank, List.all_reverse]
    exact allBlank_takeWhile s.reverse
  · rw [trimEnd, ← List.reverse_append, List.takeWhile_append_dropWhile, List.reverse_reverse]

/-- A text is its trimmed text with blanks around it. -/
theorem exists_blanks_trim (s : List Char) :
    ∃ w w', allBlank w = true ∧ allBlank w' = true ∧ s = w ++ trim s ++ w' := by
  obtain ⟨w, hw, hs⟩ := exists_blank_trimStart s
  obtain ⟨w', hw', ht⟩ := exists_blank_trimEnd (trimStart s)
  exact ⟨w, w', hw, hw', by rw [trim, List.append_assoc, ← ht, ← hs]⟩

theorem mem_trim {s : List Char} {c : Char} (hc : c ∈ s) (hblank : isBlank c = false) :
    c ∈ trim s := by
  obtain ⟨w, w', hw, hw', hs⟩ := exists_blanks_trim s
  rw [hs, List.mem_append, List.mem_append] at hc
  rcases hc with (hc | hc) | hc
  · exact absurd hc (notMem_of_all hw hblank)
  · exact hc
  · exact absurd hc (notMem_of_all hw' hblank)

theorem trim_eq_nil_iff {s : List Char} : trim s = [] ↔ allBlank s = true := by
  constructor
  · intro h
    obtain ⟨w, w', hw, hw', hs⟩ := exists_blanks_trim s
    rw [hs, h, List.append_nil, allBlank, List.all_append, Bool.and_eq_true]
    exact ⟨hw, hw'⟩
  · intro h
    rw [trim, trimStart_eq_nil_iff.2 h]
    rfl

theorem trim_eq_trimStart {s : List Char} (h : ∀ c ∈ s.getLast?, isBlank c = false) :
    trim s = trimStart s := by
  refine trimEnd_eq_self fun c hc => h c ?_
  obtain ⟨w, hw⟩ := List.dropWhile_suffix isBlank (l := s)
  rw [← hw, List.getLast?_append, ← trimStart, Option.mem_def.1 hc, Option.some_or, Option.mem_def]

theorem length_trim_le (s : List Char) : (trim s).length ≤ s.length :=
  (trimEnd_isPrefix (trimStart s)).length_le.trans (List.dropWhile_suffix isBlank).length_le

end Extraction.Text
