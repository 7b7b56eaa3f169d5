import Extraction.Proofs.Query.Spelling

/-!
# Selectors that are kept as they are

A query without brackets around it and without an attribute sign is always read, and for the first
match. Its selector is the text before the first separating pipe, with the shorthands replaced. So
the selector is the whole text as it stands exactly if there is no separating pipe and no shorthand
anywhere in it. The scan for the attribute sign skips what is in quotes; separating pipes and
shorthands count there as well.

## Main definitions

* `Query.Longhand` : a text in which no shorthand begins.
* `Query.bareFrom` : what a text has outside of its quotes.

## Main results

* `Query.expandShorthands_eq_self_iff` : the texts that replacing shorthands leaves as they are.
* `Query.outcome_parse_signless` : what a query without a sign is read as, and when it is its own
  selector.
-/

namespace Extraction.Query

open Text

/-! ### Texts without shorthands -/

/-- A text in which no shorthand begins. -/
def Longhand : List Char → Prop
  | [] => True
  | c :: rest =>
    (readClassCondition? (c :: rest) = none ∧ readNotEmpty? (c :: rest) = none) ∧ Longhand rest

instance decidableLonghand : DecidablePred Longhand
  | [] => inferInstanceAs (Decidable True)
  | c :: rest =>
    have := decidableLonghand rest
    inferInstanceAs (Decidable ((readClassCondition? (c :: rest) = none ∧
      readNotEmpty? (c :: rest) = none) ∧ Longhand rest))

theorem Longhand.expandClasses_eq {s : List Char} (h : Longhand s) : expandClasses s = s := by
  induction s with
  | nil => exact expandClasses_nil
  | cons c s ih => rw [expandClasses_cons_of_eq_none h.1.1, ih h.2]

theorem Longhand.expandNotEmpty_eq {s : List Char} (h : Longhand s) : expandNotEmpty s = s := by
  induction s with
  | nil => exact expandNotEmpty_nil
  | cons c s ih => rw [expandNotEmpty_cons_of_eq_none h.1.2, ih h.2]

theorem Longhand.right {s t : List Char} (h : Longhand (s ++ t)) : Longhand t := by
  induction s with
  | nil => exact h
  | cons c s ih => exact ih h.2

/-- No shorthand comes about at the end of a text by cutting off what does not go on with a
word. -/
theorem Longhand.left {s t : List Char} (h : Longhand (s ++ t))
    (ht : ∀ c ∈ t.head?, isWord c = false) : Longhand s := by
  induction s with
  | nil => trivial
  | cons c s ih =>
    obtain ⟨⟨hclass, hnot⟩, hrest⟩ : (readClassCondition? (c :: s ++ t) = none ∧
      readNotEmpty? (c :: s ++ t) = none) ∧ Longhand (s ++ t) := h
    refine ⟨⟨?_, ?_⟩, ih hrest⟩
    · cases hfound : readClassCondition? (c :: s) with
      | none => rfl
      | some found =>
        obtain ⟨w, w', hw, hw', hne, hname, hs⟩ := readClassCondition?_eq_some hfound
        rw [hs, List.append_assoc,
          readClassCondition?_append hw hw' hne hname] at hclass
        cases hclass
    · cases hfound : readNotEmpty? (c :: s) with
      | none => rfl
      | some after =>
        obtain ⟨hs, hword⟩ := readNotEmpty?_eq_some_iff.1 hfound
        have hafter : ∀ c ∈ (after ++ t).head?, isWord c = false := by
          cases after with
          | nil => exact ht
          | cons d after => exact hword
        rw [hs, List.append_assoc,
          readNotEmpty?_eq_some_iff.2 ⟨rfl, hafter⟩] at hnot
        cases hnot

/-- No shorthand makes up for another one: where one begins, the new text begins otherwise. -/
theorem longhand_of_expandShorthands_eq {s : List Char} (h : expandShorthands s = s) :
    Longhand s := by
  induction s with
  | nil => trivial
  | cons c s ih =>
    rw [expandShorthands] at h
    cases hclass : readClassCondition? (c :: s) with
    | some found =>
      obtain ⟨w, w', -, -, -, -, hs⟩ := readClassCondition?_eq_some hclass
      have hdot := expandNotEmpty_append_of_notMem (p := ['.']) (by decide)
        (found.1 ++ expandClasses found.2)
      rw [expandClasses_of_eq_some hclass, List.cons_append, ← List.singleton_append, hdot, hs] at h
      cases (List.cons.inj h).1
    | none =>
      rw [expandClasses_cons_of_eq_none hclass] at h
      cases hnot : readNotEmpty? (c :: expandClasses s) with
      | some after =>
        obtain ⟨hold, -⟩ := readNotEmpty?_eq_some_iff.1 hnot
        rw [expandNotEmpty_of_eq_some hnot] at h
        have hs : s = "not(:empty)".toList ++ expandNotEmpty after := (List.cons.inj h).2.symm
        rw [hs, expandClasses_append_of_notMem (by decide)] at hold
        simp at hold
      | none =>
        rw [expandNotEmpty_cons_of_eq_none hnot] at h
        have hrest := ih (List.cons.inj h).2
        rw [hrest.expandClasses_eq] at hnot
        exact ⟨⟨hclass, hnot⟩, hrest⟩

/-- Replacing shorthands leaves those texts as they are in which none begins. -/
theorem expandShorthands_eq_self_iff {s : List Char} : expandShorthands s = s ↔ Longhand s :=
  ⟨longhand_of_expandShorthands_eq, fun h => by
    rw [expandShorthands, h.expandClasses_eq, h.expandNotEmpty_eq]⟩

/-! ### The first segment -/

theorem headD_splitFilters_append_pipe {s t : List Char} (hs : Guarded s)
    (ht : t.head? ≠ some '=') : (splitFilters (s ++ '|' :: t)).headD [] = trimEnd s := by
  rw [splitFilters_append_pipe hs ht, List.headD_cons]

/-- A text begins with its first segment. -/
theorem headD_splitFilters_isPrefix (s : List Char) : (splitFilters s).headD [] <+: s := by
  rcases guarded_or_exists_pipe s with hs | ⟨p, t, rfl, hp, ht⟩
  · rw [splitFilters_of_guarded hs]
    exact List.prefix_rfl
  · rw [headD_splitFilters_append_pipe hp ht]
    exact (trimEnd_isPrefix p).trans (List.prefix_append p _)

theorem trimmed_headD_splitFilters (s : List Char) :
    Trimmed ((splitFilters (trim s)).headD []) := by
  rw [splitFilters_trim]
  cases pipePieces s with
  | nil => exact trimmed_nil
  | cons piece more => exact trimmed_trim piece

/-- If there is no sign in a text, there is none in its beginning. -/
theorem findMarker_of_isPrefix {s t : List Char} (hs : s <+: t) (ht : findMarker t = none) :
    findMarker s = none := by
  obtain ⟨r, rfl⟩ := hs
  exact (findMarkerFrom_append_eq_none_iff.1 ht).2

/-- Replacing shorthands brings about no pipe and takes none away. -/
theorem Respelled.count_pipe {s t : List Char} (h : Respelled s t) : t.count '|' = s.count '|' := by
  have hzero {r : List Char} (hr : '|' ∉ r) : r.count '|' = 0 := List.count_eq_zero.2 hr
  induction h with
  | nil => rfl
  | char c h ih => rw [List.count_cons, List.count_cons, ih]
  | @condition w name w' s t hw hw' hname hne h ih =>
    have hpipe : '|' ∉ name := notMem_of_all hname (by decide)
    have hnew : '|' ∉ '.' :: name := by simp [hpipe]
    have hold : '|' ∉ classCondition w name w' := by
      simp [classCondition, hpipe, notMem_of_all hw (c := '|') (by decide),
        notMem_of_all hw' (c := '|') (by decide)]
    rw [List.count_append, List.count_append, hzero hnew, hzero hold, ih]
  | notEmpty h ih =>
    rw [List.count_append, List.count_append, hzero (r := ":not(:empty)".toList) (by decide),
      hzero (r := ":not-empty".toList) (by decide), ih]

theorem count_expandShorthands (s : List Char) : (expandShorthands s).count '|' = s.count '|' :=
  (respelled_expandNotEmpty _).count_pipe.trans (respelled_expandClasses s).count_pipe

/-- The first segment of a text, with its shorthands replaced, is the text itself exactly if it has
no separating pipe and no shorthand. -/
theorem expandShorthands_headD_splitFilters_eq_iff {t : List Char} :
    expandShorthands ((splitFilters t).headD []) = t ↔ Guarded t ∧ Longhand t := by
  rcases guarded_or_exists_pipe t with ht | ⟨p, r, rfl, hp, hr⟩
  · rw [splitFilters_of_guarded ht, List.headD_cons, expandShorthands_eq_self_iff,
      and_iff_right ht]
  · -- What follows the first segment has a pipe that nothing can make up for.
    have hcount : (expandShorthands (trimEnd p)).count '|' < (p ++ '|' :: r).count '|' := by
      rw [count_expandShorthands, List.count_append, List.count_cons_self]
      have hle := (trimEnd_isPrefix p).sublist.count_le '|'
      omega
    rw [headD_splitFilters_append_pipe hp hr]
    refine iff_of_false (fun h => ?_) (fun ⟨h, _⟩ => ?_)
    · rw [h] at hcount
      exact Nat.lt_irrefl _ hcount
    · have hone := pipePieces_of_guarded h
      rw [pipePieces_append_pipe hp hr] at hone
      exact pipePieces_ne_nil r (List.cons.inj hone).2

/-! ### Reading -/

/-- **A selector is kept as it is exactly if it has no separating pipe and no shorthand.** Take any
query that is not blank and not too long, has no brackets around it and no at sign outside
brackets, parentheses and quotes, and a store that reading queries has filled in any way. The query
is read for the first match and without an attribute, its selector is its first segment with the
shorthands replaced, and no warning is given. The selector is the whole text, and there are no
filters, exactly if every pipe is followed by an equals sign and no shorthand begins anywhere, be
it inside quotes or not. -/
theorem outcome_parse_signless (query : String) (hne : trim query.toList ≠ [])
    (hlong : (trim query.toList).length ≤ maxLength)
    (hplain : isBracketed (trim query.toList) = false)
    (hsign : findMarker (trim query.toList) = none) (capacity : Int) (uses : List Use)
    (ns : List Notice) :
    let t := trim query.toList
    let o := (parse (.text query)).outcomeFrom ⟨.filled capacity uses, ns⟩
    (∃ filters, o = (.ok ⟨nonempty? (expandShorthands ((splitFilters t).headD [])), none, filters,
        false⟩, [])) ∧
      (o = (.ok ⟨some (String.ofList t), none, [], false⟩, []) ↔ Guarded t ∧ Longhand t) := by
  intro t o
  have hfirst : findMarker ((splitFilters t).headD []) = none :=
    findMarker_of_isPrefix (headD_splitFilters_isPrefix t) hsign
  have htrimmed : trim (expandShorthands ((splitFilters t).headD [])) =
      expandShorthands ((splitFilters t).headD []) :=
    (Spelling.trimmed_expandShorthands (trimmed_headD_splitFilters query.toList)).trim_eq
  have hread : Descriptor.read t = .ok ⟨nonempty? (expandShorthands ((splitFilters t).headD [])),
      none, readChain (joinWith ['|'] ((splitFilters t).drop 1)), false⟩ := by
    rw [Descriptor.read_of_not_bracketed hplain, Descriptor.readBody_ok_iff,
      Spelling.splitAttribute_selector hfirst, htrimmed]
    exact ⟨rfl, rfl, rfl⟩
  have ho : o = (.ok ⟨nonempty? (expandShorthands ((splitFilters t).headD [])), none,
      readChain (joinWith ['|'] ((splitFilters t).drop 1)), false⟩, []) := by
    rw [show o = (meaning (.text query), []) from
      (yields_parse (.text query)).outcomeFrom (Cache.faithful_filled capacity uses),
      meaning_text_ok_iff.2 ⟨hne, hlong, hread⟩]
  refine ⟨⟨_, ho⟩, ?_⟩
  rw [ho, Prod.mk.injEq, and_iff_left rfl, Except.ok.injEq, Descriptor.mk.injEq,
    ← expandShorthands_headD_splitFilters_eq_iff]
  constructor
  · rintro ⟨hselector, -⟩
    rw [nonempty?] at hselector
    split_ifs at hselector
    exact String.ofList_injective (Option.some.inj hselector)
  · intro h
    have hguarded : Guarded t := (expandShorthands_headD_splitFilters_eq_iff.1 h).1
    rw [h, Spelling.nonempty?_of_ne_nil hne, splitFilters_of_guarded hguarded]
    exact ⟨rfl, rfl, rfl, rfl⟩

/-- A selector with an at sign and a bracket in quotes is kept as it is. -/
theorem outcome_parse_signless_mention :
    (parse (.text " a[title=\"x@y]\"]")).outcomeFrom {} =
      (.ok ⟨some "a[title=\"x@y]\"]", none, [], false⟩, []) :=
  (outcome_parse_signless " a[title=\"x@y]\"]" (by decide) (by decide) (by decide) (by decide)
    1000 [] []).2.2 (by decide +kernel)

/-- What a text has outside of its quotes, which are closed: the scan for the sign enters it in the
given state. -/
def bareFrom (d : Depth) : List Char → List Char
  | [] => []
  | c :: rest =>
    if d.quote.isSome ∧ (d.step c).quote.isSome then bareFrom (d.step c) rest
    else c :: bareFrom (d.step c) rest

/-- Outside of its quotes a selector has no pipe, and yet it is cut off at a pipe. -/
theorem outcome_parse_quotedPipe :
    let query := "a[title=\"x|y\"]"
    let bare := bareFrom .ground query.toList
    isBracketed query.toList = false ∧ (Depth.ground.after query.toList).quote = none ∧
      findMarker query.toList = none ∧ bare = "a[title=\"\"]".toList ∧ Guarded bare ∧
      Longhand bare ∧
      ((parse (.text query)).outcomeFrom {}).1.toOption =
        some ⟨some "a[title=\"x", none, [⟨"y\"]", []⟩], false⟩ := by
  decide +kernel

end Extraction.Query
