import Extraction.Proofs.Text.Trim
import Extraction.Query.Chain
import Extraction.Text.Search
import Mathlib.Tactic.SplitIfs

/-!
# The segments of a query

A pipe separates filters unless an equals sign follows it. A text in which every pipe is guarded in
this way is one segment, and any text is such a segment, or one and a separating pipe and more
text. This file follows that division: trimming a text trims its segments, and segments that are
joined by pipes are found again.

## Main definitions

* `Query.Guarded` : every pipe is followed by an equals sign.
* `Query.fused` : what becomes of pieces that are joined by pipes.

## Main results

* `Query.segmentInduction` : induction on the separating pipes of a text.
* `Query.splitFilters_trim` : the segments of a trimmed text are the trimmed pieces of the text.
* `Query.readChain_eq_filterMap` : the filters of a chain are those of its pieces.
* `Query.pipePieces_joinWith` : pieces that are joined by pipes are found again, unless a later one
  begins with an equals sign.
-/

namespace Extraction.Query

open Text

/-- Every pipe of a text is followed by an equals sign. -/
def Guarded : List Char → Prop
  | [] => True
  | c :: rest => (c = '|' → rest.head? = some '=') ∧ Guarded rest

instance decidableGuarded : DecidablePred Guarded
  | [] => inferInstanceAs (Decidable True)
  | c :: rest =>
    have := decidableGuarded rest
    inferInstanceAs (Decidable ((c = '|' → rest.head? = some '=') ∧ Guarded rest))

/-- A guarded text has no separating pipe at its start, whatever follows the text. -/
theorem Guarded.not_separating {c : Char} {s : List Char} (h : Guarded (c :: s)) (t : List Char) :
    ¬(c = '|' ∧ (s ++ t).head? ≠ some '=') := fun hpipe => by
  rw [List.head?_append, h.1 hpipe.1, Option.some_or] at hpipe
  exact hpipe.2 rfl

theorem guarded_of_notMem {s : List Char} (h : '|' ∉ s) : Guarded s := by
  induction s with
  | nil => trivial
  | cons c s ih =>
    rw [List.mem_cons, not_or] at h
    exact ⟨fun hc => absurd hc.symm h.1, ih h.2⟩

theorem guarded_of_allBlank {w : List Char} (hw : allBlank w = true) : Guarded w :=
  guarded_of_notMem (notMem_of_all hw (by decide))

theorem Guarded.append {s t : List Char} (hs : Guarded s) (ht : Guarded t) : Guarded (s ++ t) := by
  induction s with
  | nil => exact ht
  | cons c s ih =>
    refine ⟨fun hc => ?_, ih hs.2⟩
    exact (List.head?_append ..).trans (by rw [hs.1 hc, Option.some_or])

theorem Guarded.right {s t : List Char} (h : Guarded (s ++ t)) : Guarded t := by
  induction s with
  | nil => exact h
  | cons c s ih => exact ih h.2

theorem Guarded.left {s t : List Char} (h : Guarded (s ++ t)) (ht : t.head? ≠ some '=') :
    Guarded s := by
  induction s with
  | nil => trivial
  | cons c s ih =>
    refine ⟨fun hc => ?_, ih h.2⟩
    have hnext := h.1 hc
    cases s with
    | nil => exact absurd hnext ht
    | cons d s => exact hnext

/-! ### Pieces -/

theorem pipePieces_of_guarded {s : List Char} (hs : Guarded s) : pipePieces s = [s] := by
  induction s with
  | nil => rfl
  | cons c s ih => rw [pipePieces, if_neg (fun h => h.2 (hs.1 h.1)), ih hs.2]

/-- A guarded text up to a separating pipe is the first piece. -/
theorem pipePieces_append_pipe {s t : List Char} (hs : Guarded s) (ht : t.head? ≠ some '=') :
    pipePieces (s ++ '|' :: t) = s :: pipePieces t := by
  induction s with
  | nil => rw [List.nil_append, pipePieces, if_pos ⟨rfl, ht⟩]
  | cons c s ih =>
    rw [List.cons_append, pipePieces, if_neg (hs.not_separating _), ih hs.2]

/-- A pipe before an equals sign does not end the first piece. -/
theorem pipePieces_append_equals {s t : List Char} (hs : Guarded s) (ht : t.head? = some '=')
    {piece : List Char} {more : List (List Char)} (h : pipePieces t = piece :: more) :
    pipePieces (s ++ '|' :: t) = (s ++ '|' :: piece) :: more := by
  induction s with
  | nil => rw [List.nil_append, pipePieces, if_neg (fun hpipe => hpipe.2 ht), h, List.nil_append]
  | cons c s ih =>
    rw [List.cons_append, pipePieces, if_neg (hs.not_separating _), ih hs.2, List.cons_append]

/-- The first piece begins with an equals sign if the text does. -/
theorem head?_of_pipePieces {s piece : List Char} {more : List (List Char)}
    (h : pipePieces s = piece :: more) : piece.head? = some '=' ↔ s.head? = some '=' := by
  cases s with
  | nil =>
    obtain ⟨rfl, -⟩ := List.cons.inj h
    exact Iff.rfl
  | cons c s =>
    rw [pipePieces] at h
    split_ifs at h with hc
    · obtain ⟨rfl, -⟩ := List.cons.inj h
      simp [hc.1]
    · split at h
      all_goals
        obtain ⟨rfl, -⟩ := List.cons.inj h
        simp

theorem guarded_or_exists_pipe (s : List Char) :
    Guarded s ∨ ∃ p t, s = p ++ '|' :: t ∧ Guarded p ∧ t.head? ≠ some '=' := by
  induction s with
  | nil => exact .inl trivial
  | cons c s ih =>
    by_cases hc : c = '|' ∧ s.head? ≠ some '='
    · obtain ⟨rfl, hs⟩ := hc
      exact .inr ⟨[], s, rfl, trivial, hs⟩
    · have hc' : c = '|' → s.head? = some '=' := fun h => by_contra fun hs => hc ⟨h, hs⟩
      rcases ih with hs | ⟨p, t, rfl, hp, ht⟩
      · exact .inl ⟨hc', hs⟩
      · refine .inr ⟨c :: p, t, rfl, ⟨fun h => ?_, hp⟩, ht⟩
        cases p with
        | nil => cases hc' h
        | cons d p => exact hc' h

/-- Induction on the separating pipes of a text: it is guarded, or a guarded text and a separating
pipe and more text. -/
theorem segmentInduction {P : List Char → Prop} (guarded : ∀ s, Guarded s → P s)
    (pipe : ∀ s t, Guarded s → t.head? ≠ some '=' → P t → P (s ++ '|' :: t)) (s : List Char) :
    P s := by
  rcases guarded_or_exists_pipe s with hs | ⟨p, t, rfl, hp, ht⟩
  · exact guarded s hs
  · exact pipe p t hp ht (segmentInduction guarded pipe t)
termination_by s.length

theorem pipePieces_ne_nil (s : List Char) : pipePieces s ≠ [] := by
  induction s using segmentInduction with
  | guarded s hs => simp [pipePieces_of_guarded hs]
  | pipe s t hs ht => simp [pipePieces_append_pipe hs ht]

theorem trimLater_cons {piece : List Char} {more : List (List Char)} (h : more ≠ []) :
    trimLater (piece :: more) = trim piece :: trimLater more := by
  obtain ⟨next, rest, rfl⟩ := List.exists_cons_of_ne_nil h
  rfl

/-- A guarded text is one segment. -/
theorem splitFilters_of_guarded {s : List Char} (hs : Guarded s) : splitFilters s = [s] := by
  rw [splitFilters, pipePieces_of_guarded hs]

/-- A guarded text up to a separating pipe is the first segment, but for the blanks at its end. -/
theorem splitFilters_append_pipe {s t : List Char} (hs : Guarded s) (ht : t.head? ≠ some '=') :
    splitFilters (s ++ '|' :: t) = trimEnd s :: trimLater (pipePieces t) := by
  rw [splitFilters, pipePieces_append_pipe hs ht]
  obtain ⟨piece, more, h⟩ := List.exists_cons_of_ne_nil (pipePieces_ne_nil t)
  rw [h]

theorem guarded_of_mem_pipePieces {s p : List Char} (h : p ∈ pipePieces s) : Guarded p := by
  induction s using segmentInduction with
  | guarded s hs =>
    rw [pipePieces_of_guarded hs, List.mem_singleton] at h
    exact h ▸ hs
  | pipe s t hs ht ih =>
    rw [pipePieces_append_pipe hs ht, List.mem_cons] at h
    rcases h with rfl | h
    · exact hs
    · exact ih h

/-! ### Trimming -/

/-- Trimming cuts no pipe off from the equals sign after it. -/
theorem Guarded.trim {s : List Char} (hs : Guarded s) : Guarded (trim s) := by
  obtain ⟨w, w', -, hw', hblanks⟩ := exists_blanks_trim s
  rw [hblanks, List.append_assoc] at hs
  refine hs.right.left fun h => ?_
  exact notMem_of_all hw' (by decide) (List.mem_of_head? h)

theorem map_trim_pipePieces_blank_append {w : List Char} (hw : allBlank w = true) (t : List Char) :
    (pipePieces (w ++ t)).map trim = (pipePieces t).map trim := by
  have hguarded := guarded_of_allBlank hw
  rcases guarded_or_exists_pipe t with ht | ⟨p, t, rfl, hp, ht⟩
  · rw [pipePieces_of_guarded (hguarded.append ht), pipePieces_of_guarded ht, List.map_singleton,
      List.map_singleton, trim_blank_append hw]
  · rw [← List.append_assoc, pipePieces_append_pipe (hguarded.append hp) ht,
      pipePieces_append_pipe hp ht, List.map_cons, List.map_cons, trim_blank_append hw]

theorem map_trim_pipePieces_append_blank {w : List Char} (hw : allBlank w = true) (t : List Char) :
    (pipePieces (t ++ w)).map trim = (pipePieces t).map trim := by
  have hguarded := guarded_of_allBlank hw
  induction t using segmentInduction with
  | guarded t ht =>
    rw [pipePieces_of_guarded (ht.append hguarded), pipePieces_of_guarded ht, List.map_singleton,
      List.map_singleton, trim_append_blank hw]
  | pipe p t hp ht ih =>
    have ht' : (t ++ w).head? ≠ some '=' := by
      cases t with
      | nil => exact fun h => notMem_of_all hw (by decide) (List.mem_of_head? h)
      | cons c t => exact ht
    rw [List.append_assoc, List.cons_append, pipePieces_append_pipe hp ht',
      pipePieces_append_pipe hp ht, List.map_cons, List.map_cons, ih]

/-- Trimming a text does not change its pieces but for the blanks at their ends. -/
theorem map_trim_pipePieces_trim (t : List Char) :
    (pipePieces (trim t)).map trim = (pipePieces t).map trim := by
  obtain ⟨w, w', hw, hw', ht⟩ := exists_blanks_trim t
  have h : (pipePieces (w ++ trim t ++ w')).map trim = (pipePieces (trim t)).map trim := by
    rw [map_trim_pipePieces_append_blank hw', map_trim_pipePieces_blank_append hw]
  rw [← ht] at h
  exact h.symm

theorem trimLater_pipePieces {t : List Char} (ht : ∀ c ∈ t.getLast?, isBlank c = false) :
    trimLater (pipePieces t) = (pipePieces t).map trim := by
  induction t using segmentInduction with
  | guarded t hguarded =>
    rw [pipePieces_of_guarded hguarded, trimLater, List.map_singleton, trim_eq_trimStart ht]
  | pipe p t hp hhead ih =>
    have hlast : ∀ c ∈ t.getLast?, isBlank c = false := fun c hc =>
      ht c (by rw [List.getLast?_append, List.getLast?_cons, Option.mem_def.1 hc]; rfl)
    rw [pipePieces_append_pipe hp hhead, List.map_cons, ← ih hlast,
      trimLater_cons (pipePieces_ne_nil t)]

/-- The segments of a text that is trimmed are the trimmed pieces of the text. -/
theorem splitFilters_trim (t : List Char) : splitFilters (trim t) = (pipePieces t).map trim := by
  rw [← map_trim_pipePieces_trim]
  have hs := trimmed_trim t
  generalize trim t = s at hs
  rcases guarded_or_exists_pipe s with hguarded | ⟨p, t, rfl, hp, ht⟩
  · rw [splitFilters_of_guarded hguarded, pipePieces_of_guarded hguarded, List.map_singleton,
      hs.trim_eq]
  · have hfirst : trimEnd p = trim p := by
      rw [trim, trimStart_eq_self fun c hc => hs.head c ?_]
      rw [List.head?_append, Option.mem_def.1 hc, Option.some_or, Option.mem_def]
    have hlater : trimLater (pipePieces t) = (pipePieces t).map trim :=
      trimLater_pipePieces fun c hc => hs.last c
        (by rw [List.getLast?_append, List.getLast?_cons, Option.mem_def.1 hc]; rfl)
    rw [splitFilters_append_pipe hp ht, pipePieces_append_pipe hp ht, List.map_cons, ← hfirst,
      ← hlater]

theorem readCall?_trim (s : List Char) : readCall? (trim s) = readCall? s := by
  simp only [readCall?, (trimmed_trim s).trim_eq]

/-- The filters of a chain are those of its pieces. -/
theorem readChain_eq_filterMap (s : List Char) :
    readChain s = (pipePieces s).filterMap readCall? := by
  unfold readChain
  split_ifs with h
  · have hcall : readCall? s = none := by simp [readCall?, trim_eq_nil_iff.2 h]
    simp [pipePieces_of_guarded (guarded_of_allBlank h), hcall]
  · rw [splitFilters_trim, List.filterMap_map]
    exact congrArg (fun f => List.filterMap f _) (funext readCall?_trim)

/-! ### Joining -/

/-- Pieces, with every later one that begins with an equals sign put behind a pipe at the end of the
one before it. -/
def fused : List (List Char) → List (List Char)
  | [] => []
  | piece :: more =>
    match fused more with
    | [] => [piece]
    | next :: rest =>
      if next.head? = some '=' then (piece ++ '|' :: next) :: rest else piece :: next :: rest

theorem exists_fused_cons (piece : List Char) (more : List (List Char)) :
    ∃ first rest, fused (piece :: more) = first :: rest ∧
      (first.head? = some '=' ↔ piece.head? = some '=') := by
  rw [fused]
  split
  · exact ⟨piece, [], rfl, Iff.rfl⟩
  · split_ifs
    · exact ⟨_, _, rfl, by cases piece <;> simp⟩
    · exact ⟨piece, _, rfl, Iff.rfl⟩

/-- Every later piece that begins with an equals sign is lost as a piece of its own. -/
theorem length_fused (piece : List Char) (more : List (List Char)) :
    (fused (piece :: more)).length = more.countP (·.head? ≠ some '=') + 1 := by
  induction more generalizing piece with
  | nil => rfl
  | cons next more ih =>
    obtain ⟨first, rest, hnext, hhead⟩ := exists_fused_cons next more
    have hlength := ih next
    rw [hnext, List.length_cons] at hlength
    rw [fused, hnext, List.countP_cons]
    simp only [hhead]
    split_ifs <;> simp_all

theorem fused_eq_self {piece : List Char} {more : List (List Char)}
    (h : ∀ p ∈ more, p.head? ≠ some '=') : fused (piece :: more) = piece :: more := by
  induction more generalizing piece with
  | nil => rfl
  | cons next more ih =>
    rw [fused, ih fun p hp => h p (List.mem_cons_of_mem next hp)]
    exact if_neg (h next List.mem_cons_self)

theorem joinWith_cons_cons (piece next : List Char) (more : List (List Char)) :
    joinWith ['|'] (piece :: next :: more) = piece ++ '|' :: joinWith ['|'] (next :: more) := by
  rw [joinWith, List.append_assoc, List.singleton_append]

/-- Guarded pieces that have been joined by pipes are found again, but for those that begin with an
equals sign and are not the first: such a piece makes its pipe a part of the one before. -/
theorem pipePieces_joinWith {piece : List Char} {more : List (List Char)}
    (hguarded : ∀ p ∈ piece :: more, Guarded p) :
    pipePieces (joinWith ['|'] (piece :: more)) = fused (piece :: more) := by
  induction more generalizing piece with
  | nil => exact pipePieces_of_guarded (hguarded piece List.mem_cons_self)
  | cons next more ih =>
    have hpiece := hguarded piece List.mem_cons_self
    have hrest := ih fun p hp => hguarded p (List.mem_cons_of_mem piece hp)
    rw [joinWith_cons_cons, fused, ← hrest]
    generalize joinWith ['|'] (next :: more) = joined
    cases hjoined : pipePieces joined with
    | nil => exact absurd hjoined (pipePieces_ne_nil joined)
    | cons first rest =>
      have hhead := head?_of_pipePieces hjoined
      by_cases h : joined.head? = some '='
      · rw [pipePieces_append_equals hpiece h hjoined]
        exact (if_pos (hhead.2 h)).symm
      · rw [pipePieces_append_pipe hpiece h, hjoined]
        exact (if_neg fun hfirst => h (hhead.1 hfirst)).symm

end Extraction.Query
