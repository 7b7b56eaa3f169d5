import Extraction.Proofs.Query.Marker
import Extraction.Proofs.Text.Trim
import Extraction.Query.Shorthand

/-!
# What replacing shorthands keeps

Replacing the shorthands of a selector puts a class for a class name in brackets and a negation for
`:not-empty`. Neither the old nor the new spelling holds a quote or an at sign, and in both of them
brackets and parentheses are closed where they are opened, so the scan for the attribute sign does
not tell them apart. Nor does a shorthand reach over a blank and an at sign: these may be put after
a selector without any effect on its shorthands.

## Main definitions

* `Query.Respelled` : one text is the other one with some shorthands replaced.

## Main results

* `Query.respelled_expandClasses`, `Query.respelled_expandNotEmpty` : what is replaced.
* `Query.Respelled.after_eq`, `Query.Respelled.findMarkerFrom_eq_none` : the scan for the sign.
* `Query.expandShorthands_append_sign` : the shorthands before an at sign and those after it.
-/

namespace Extraction.Query

open Text

/-! ### One step of replacing -/

theorem expandClasses_of_eq_some {s name after : List Char}
    (h : readClassCondition? s = some (name, after)) :
    expandClasses s = '.' :: name ++ expandClasses after := by
  rw [expandClasses]
  split
  · rename_i name' after' h'
    rw [h] at h'
    obtain ⟨rfl, rfl⟩ := Prod.mk.inj (Option.some.inj h')
    rfl
  · rename_i h'
    rw [h] at h'
    cases h'

theorem expandClasses_nil : expandClasses [] = [] := by
  rw [expandClasses]
  rfl

theorem expandClasses_cons_of_eq_none {c : Char} {rest : List Char}
    (h : readClassCondition? (c :: rest) = none) :
    expandClasses (c :: rest) = c :: expandClasses rest := by
  rw [expandClasses]
  split
  · rename_i h'
    rw [h] at h'
    cases h'
  · rfl

theorem expandNotEmpty_of_eq_some {s after : List Char} (h : readNotEmpty? s = some after) :
    expandNotEmpty s = ":not(:empty)".toList ++ expandNotEmpty after := by
  rw [expandNotEmpty]
  split
  · rename_i after' h'
    rw [h] at h'
    obtain rfl := Option.some.inj h'
    rfl
  · rename_i h'
    rw [h] at h'
    cases h'

theorem expandNotEmpty_nil : expandNotEmpty [] = [] := by
  rw [expandNotEmpty]
  rfl

theorem expandNotEmpty_cons_of_eq_none {c : Char} {rest : List Char}
    (h : readNotEmpty? (c :: rest) = none) :
    expandNotEmpty (c :: rest) = c :: expandNotEmpty rest := by
  rw [expandNotEmpty]
  split
  · rename_i h'
    rw [h] at h'
    cases h'
  · rfl

/-! ### One shorthand -/

/-- A bracket, blanks, a dot, a name, blanks and a bracket. -/
def classCondition (w name w' : List Char) : List Char :=
  '[' :: w ++ '.' :: name ++ w' ++ [']']

theorem isClassChar_of_isBlank {c : Char} (hc : isBlank c = true) : isClassChar c = false := by
  rw [isClassChar, isWord_of_isBlank hc, Bool.false_or, decide_eq_false_iff_not]
  rintro rfl
  revert hc
  decide

theorem readClassCondition?_eq_some {s name after : List Char}
    (h : readClassCondition? s = some (name, after)) :
    ∃ w w', allBlank w = true ∧ allBlank w' = true ∧ name ≠ [] ∧
      name.all isClassChar = true ∧ s = classCondition w name w' ++ after := by
  unfold readClassCondition? at h
  split at h
  · rename_i rest
    split at h
    · rename_i body hbody
      simp only at h
      split at h
      · rename_i c cs after' hname hafter
        simp only [Option.some.injEq, Prod.mk.injEq] at h
        obtain ⟨rfl, rfl⟩ := h
        refine ⟨rest.takeWhile isBlank, (body.dropWhile isClassChar).takeWhile isBlank,
          List.all_eq_true.2 fun _ hc => List.mem_takeWhile_imp hc,
          List.all_eq_true.2 fun _ hc => List.mem_takeWhile_imp hc, by rw [hname]; simp,
          List.all_eq_true.2 fun _ hc => List.mem_takeWhile_imp hc, ?_⟩
        have h1 := List.takeWhile_append_dropWhile (p := isBlank) (l := rest)
        have h2 := List.takeWhile_append_dropWhile (p := isClassChar) (l := body)
        have h3 := List.takeWhile_append_dropWhile (p := isBlank) (l := body.dropWhile isClassChar)
        rw [hafter] at h3
        rw [hbody, ← h2, ← h3] at h1
        simpa [classCondition] using h1.symm
      · simp at h
    · simp at h
  · simp at h

theorem readClassCondition?_append {w name w' : List Char} (hw : allBlank w = true)
    (hw' : allBlank w' = true) (hne : name ≠ []) (hname : name.all isClassChar = true)
    (after : List Char) :
    readClassCondition? (classCondition w name w' ++ after) = some (name, after) := by
  have hdot : (w ++ '.' :: (name ++ (w' ++ ']' :: after))).dropWhile isBlank =
      '.' :: (name ++ (w' ++ ']' :: after)) := by
    rw [List.dropWhile_append_of_pos (List.all_eq_true.1 hw)]
    rfl
  have hclose : (w' ++ ']' :: after).dropWhile isBlank = ']' :: after := by
    rw [List.dropWhile_append_of_pos (List.all_eq_true.1 hw')]
    rfl
  obtain ⟨b, rest, hrest, hb⟩ : ∃ b rest, w' ++ ']' :: after = b :: rest ∧
      isClassChar b = false := by
    cases w' with
    | nil => exact ⟨']', after, rfl, by decide⟩
    | cons b w' =>
      exact ⟨b, _, rfl, isClassChar_of_isBlank (List.all_eq_true.1 hw' b List.mem_cons_self)⟩
  have htake : (name ++ (w' ++ ']' :: after)).takeWhile isClassChar = name := by
    rw [List.takeWhile_append_of_pos (List.all_eq_true.1 hname), hrest,
      List.takeWhile_cons_of_neg (by simp [hb]), List.append_nil]
  have hdrop : (name ++ (w' ++ ']' :: after)).dropWhile isClassChar = w' ++ ']' :: after := by
    rw [List.dropWhile_append_of_pos (List.all_eq_true.1 hname), hrest,
      List.dropWhile_cons_of_neg (by simp [hb])]
  obtain ⟨c, cs, rfl⟩ := List.exists_cons_of_ne_nil hne
  simp only [classCondition, List.append_assoc, List.cons_append, List.nil_append,
    readClassCondition?] at *
  simp only [hdot, htake, hdrop, hclose]

theorem readNotEmpty?_eq_some_iff {s after : List Char} :
    readNotEmpty? s = some after ↔
      s = ":not-empty".toList ++ after ∧ ∀ c ∈ after.head?, isWord c = false := by
  rw [← afterLead?_eq_some, readNotEmpty?]
  cases h : afterLead? ":not-empty".toList s with
  | none => simp
  | some rest =>
    cases rest with
    | nil =>
      rw [Option.some.injEq]
      refine ⟨fun h => ⟨h, ?_⟩, fun h => h.1⟩
      rw [← h]
      rintro c ⟨⟩
    | cons c rest =>
      cases hc : isWord c with
      | true =>
        refine iff_of_false (by simp [hc]) (fun ⟨hafter, hword⟩ => ?_)
        obtain rfl := Option.some.inj hafter
        rw [hword c rfl] at hc
        cases hc
      | false =>
        simp only [hc, Bool.false_eq_true, if_false, Option.some.injEq]
        refine ⟨fun h => ⟨h, ?_⟩, fun h => h.1⟩
        rw [← h]
        rintro d ⟨⟩
        exact hc

/-! ### Respelling -/

/-- One text is the other one with some of its shorthands replaced. -/
inductive Respelled : List Char → List Char → Prop
  /-- The empty text. -/
  | nil : Respelled [] []
  /-- A character that is kept. -/
  | char (c : Char) {s t : List Char} : Respelled s t → Respelled (c :: s) (c :: t)
  /-- A class name in brackets that is replaced. -/
  | condition {w name w' s t : List Char} : allBlank w = true → allBlank w' = true →
      name.all isClassChar = true → name ≠ [] → Respelled s t →
      Respelled (classCondition w name w' ++ s) ('.' :: name ++ t)
  /-- A `:not-empty` that is replaced. -/
  | notEmpty {s t : List Char} : Respelled s t →
      Respelled (":not-empty".toList ++ s) (":not(:empty)".toList ++ t)

theorem respelled_expandClasses (s : List Char) : Respelled s (expandClasses s) := by
  induction s using expandClasses.induct with
  | case1 s name after h ih =>
    obtain ⟨w, w', hw, hw', hne, hname, rfl⟩ := readClassCondition?_eq_some h
    rw [expandClasses_of_eq_some h]
    exact .condition hw hw' hname hne ih
  | case2 h =>
    rw [expandClasses_nil]
    exact .nil
  | case3 c rest h ih =>
    rw [expandClasses_cons_of_eq_none h]
    exact .char c ih

theorem respelled_expandNotEmpty (s : List Char) : Respelled s (expandNotEmpty s) := by
  induction s using expandNotEmpty.induct with
  | case1 s after h ih =>
    obtain ⟨rfl, -⟩ := readNotEmpty?_eq_some_iff.1 h
    rw [expandNotEmpty_of_eq_some h]
    exact .notEmpty ih
  | case2 h =>
    rw [expandNotEmpty_nil]
    exact .nil
  | case3 c rest h ih =>
    rw [expandNotEmpty_cons_of_eq_none h]
    exact .char c ih

theorem Respelled.eq_nil_iff {s t : List Char} (h : Respelled s t) : s = [] ↔ t = [] := by
  cases h <;> simp [classCondition]

section Scan

variable {d : Depth}

theorem after_classCondition (hd : d.Sound) {w name w' : List Char} (hw : allBlank w = true)
    (hw' : allBlank w' = true) (hname : name.all isClassChar = true) :
    d.after (classCondition w name w') = d := by
  have hinside : (w ++ '.' :: name ++ w').all Depth.isNeutral = true := by
    rw [List.all_append, List.all_append, List.all_cons,
      Depth.all_isNeutral_of_all (by decide) hw, Depth.all_isNeutral_of_all (by decide) hw',
      Depth.all_isNeutral_of_all (by decide) hname]
    decide
  have h := Depth.after_enclosed hd hinside (.inl rfl : '[' = '[' ∨ _) (.inl rfl : ']' = ']' ∨ _)
  simpa [classCondition] using h

theorem notMem_classCondition {w name w' : List Char} (hw : allBlank w = true)
    (hw' : allBlank w' = true) (hname : name.all isClassChar = true) :
    '@' ∉ classCondition w name w' := by
  simp [classCondition, notMem_of_all hw (c := '@') (by decide),
    notMem_of_all hw' (c := '@') (by decide), notMem_of_all hname (c := '@') (by decide)]

theorem after_className (hd : d.Sound) {name : List Char}
    (hname : name.all isClassChar = true) : d.after ('.' :: name) = d := by
  refine Depth.after_of_neutral hd ?_
  rw [List.all_cons, Depth.all_isNeutral_of_all (by decide) hname]
  decide

theorem after_negation (hd : d.Sound) : d.after ":not(:empty)".toList = d := by
  have hlead : d.after ":not".toList = d := Depth.after_of_neutral hd (by decide)
  have h := Depth.after_enclosed (s := ":empty".toList) hd (by decide) (.inr rfl : '(' = '[' ∨ _)
    (.inr rfl : ')' = ']' ∨ _)
  have hsplit : ":not(:empty)".toList = ":not".toList ++ ('(' :: ":empty".toList ++ [')']) := by
    decide
  rw [hsplit, Depth.after_append, hlead, h]

/-- The scan is in the same state after a text whose shorthands have been replaced. -/
theorem Respelled.after_eq {s t : List Char} (h : Respelled s t) (hd : d.Sound) :
    d.after t = d.after s := by
  induction h generalizing d with
  | nil => rfl
  | char c h ih => exact ih (hd.step c)
  | condition hw hw' hname hne h ih =>
    rw [Depth.after_append, Depth.after_append, after_className hd hname,
      after_classCondition hd hw hw' hname, ih hd]
  | notEmpty h ih =>
    have hold : d.after ":not-empty".toList = d := Depth.after_of_neutral hd (by decide)
    rw [Depth.after_append, Depth.after_append, after_negation hd, hold, ih hd]

/-- No sign comes about by replacing shorthands. -/
theorem Respelled.findMarkerFrom_eq_none {s t : List Char} (h : Respelled s t) (hd : d.Sound)
    (hs : findMarkerFrom d s = none) : findMarkerFrom d t = none := by
  induction h generalizing d with
  | nil => rfl
  | @char c s t h ih =>
    rw [← List.singleton_append, findMarkerFrom_append_eq_none_iff] at hs ⊢
    exact ⟨ih (hd.step c) hs.1, hs.2⟩
  | @condition w name w' s t hw hw' hname hne h ih =>
    rw [findMarkerFrom_append_eq_none_iff, after_classCondition hd hw hw' hname] at hs
    rw [findMarkerFrom_append_eq_none_iff, after_className hd hname]
    have hsign : '@' ∉ '.' :: name := by
      simp [notMem_of_all hname (c := '@') (by decide)]
    exact ⟨ih hd hs.1, findMarkerFrom_of_notMem hsign d⟩
  | notEmpty h ih =>
    have hold : d.after ":not-empty".toList = d := Depth.after_of_neutral hd (by decide)
    rw [findMarkerFrom_append_eq_none_iff, hold] at hs
    rw [findMarkerFrom_append_eq_none_iff, after_negation hd]
    exact ⟨ih hd hs.1, findMarkerFrom_of_notMem (by decide) d⟩

end Scan

/-! ### The ends of a text -/

private theorem getLast?_append_of_respelled {p p' s t : List Char} (h : Respelled s t)
    (hp : ∀ c ∈ p'.getLast?, isBlank c = false ∨ c ∈ p.getLast?)
    (ih : ∀ c ∈ t.getLast?, isBlank c = false ∨ c ∈ s.getLast?) :
    ∀ c ∈ (p' ++ t).getLast?, isBlank c = false ∨ c ∈ (p ++ s).getLast? := by
  intro c hc
  rw [List.getLast?_append, Option.mem_def] at hc
  rw [List.getLast?_append]
  cases ht : t.getLast? with
  | none =>
    rw [ht, Option.none_or] at hc
    rw [h.eq_nil_iff.2 (List.getLast?_eq_none_iff.1 ht)]
    exact hp c hc
  | some b =>
    rw [ht, Option.some_or] at hc
    rcases ih c (ht.trans hc) with hblank | hlast
    · exact .inl hblank
    · exact .inr (by rw [Option.mem_def.1 hlast, Option.some_or, Option.mem_def])

theorem Respelled.getLast? {s t : List Char} (h : Respelled s t) :
    ∀ c ∈ t.getLast?, isBlank c = false ∨ c ∈ s.getLast? := by
  induction h with
  | nil => exact fun c hc => .inr hc
  | @char c s t h ih =>
    exact getLast?_append_of_respelled (p := [c]) h (fun _ hc => .inr hc) ih
  | @condition w name w' s t hw hw' hname hne h ih =>
    refine getLast?_append_of_respelled h (fun c hc => .inl ?_) ih
    have hmem := List.mem_of_getLast? hc
    rcases List.mem_cons.1 hmem with rfl | hmem
    · decide
    · cases hb : isBlank c with
      | false => rfl
      | true => exact absurd hmem (notMem_of_all hname (isClassChar_of_isBlank hb))
  | notEmpty h ih =>
    refine getLast?_append_of_respelled h (fun c hc => .inl ?_) ih
    obtain rfl : ')' = c := by simpa using hc
    decide

/-- Replacing shorthands leaves a trimmed text trimmed. -/
theorem Respelled.trimmed {s t : List Char} (h : Respelled s t) (hs : Trimmed s) : Trimmed t where
  head c hc := by
    cases h with
    | nil => cases hc
    | char d h => exact hs.head c hc
    | condition hw hw' hname hne h =>
      obtain rfl : '.' = c := Option.some.inj hc
      decide
    | notEmpty h =>
      obtain rfl : ':' = c := by simpa using hc
      decide
  last c hc := by
    rcases h.getLast? c hc with hblank | hlast
    · exact hblank
    · exact hs.last c hlast

/-! ### Texts one after another -/

theorem expandClasses_append_of_notMem {p : List Char} (hp : '[' ∉ p) (t : List Char) :
    expandClasses (p ++ t) = p ++ expandClasses t := by
  induction p with
  | nil => rfl
  | cons c p ih =>
    rw [List.mem_cons, not_or] at hp
    have hnone : readClassCondition? (c :: (p ++ t)) = none := by
      cases h : readClassCondition? (c :: (p ++ t)) with
      | none => rfl
      | some found =>
        obtain ⟨w, w', -, -, -, -, hs⟩ := readClassCondition?_eq_some h
        exact absurd (List.cons.inj hs).1.symm hp.1
    rw [List.cons_append, expandClasses_cons_of_eq_none hnone, ih hp.2, List.cons_append]

theorem expandNotEmpty_append_of_notMem {p : List Char} (hp : ':' ∉ p) (t : List Char) :
    expandNotEmpty (p ++ t) = p ++ expandNotEmpty t := by
  induction p with
  | nil => rfl
  | cons c p ih =>
    rw [List.mem_cons, not_or] at hp
    have hnone : readNotEmpty? (c :: (p ++ t)) = none := by
      cases h : readNotEmpty? (c :: (p ++ t)) with
      | none => rfl
      | some found =>
        obtain ⟨hs, -⟩ := readNotEmpty?_eq_some_iff.1 h
        exact absurd (List.cons.inj hs).1.symm hp.1
    rw [List.cons_append, expandNotEmpty_cons_of_eq_none hnone, ih hp.2, List.cons_append]

section Sign

variable {w t : List Char}

/-- What is cut off from blanks and an at sign, without the sign, is blank. -/
theorem allBlank_of_append_eq (hw : allBlank w = true) (ht : t.head? = some '@')
    {y rest : List Char} (h : w ++ t = y ++ rest) (hy : '@' ∉ y) : allBlank y = true := by
  rcases List.append_eq_append_iff.1 h with ⟨y', rfl, rfl⟩ | ⟨w', rfl, rfl⟩
  · cases y' with
    | nil => rwa [List.append_nil]
    | cons c y' =>
      obtain rfl := Option.some.inj ht
      exact absurd (List.mem_append_right w List.mem_cons_self) hy
  · rw [allBlank, List.all_append, Bool.and_eq_true] at hw
    exact hw.1

theorem readClassCondition?_append_sign (hw : allBlank w = true) (ht : t.head? = some '@')
    {s : List Char} (h : readClassCondition? s = none) :
    readClassCondition? (s ++ (w ++ t)) = none := by
  cases hfound : readClassCondition? (s ++ (w ++ t)) with
  | none => rfl
  | some found =>
    obtain ⟨name, rest⟩ := found
    obtain ⟨v, v', hv, hv', hne, hname, heq⟩ := readClassCondition?_eq_some hfound
    rcases List.append_eq_append_iff.1 heq with ⟨y, hy, hrest⟩ | ⟨rest, rfl, -⟩
    · -- The condition would begin in the selector and end after it, with a bracket.
      have hblank : allBlank y = true := allBlank_of_append_eq hw ht hrest fun hmem =>
        notMem_classCondition hv hv' hname (by rw [hy]; exact List.mem_append_right s hmem)
      cases hlast : y.getLast? with
      | none =>
        rw [List.getLast?_eq_none_iff.1 hlast, List.append_nil] at hy
        have hself := readClassCondition?_append hv hv' hne hname []
        rw [List.append_nil, hy, h] at hself
        cases hself
      | some c =>
        have hend : (classCondition v name v').getLast? = some ']' := by
          rw [classCondition, List.getLast?_append]
          rfl
        rw [hy, List.getLast?_append, hlast, Option.some_or] at hend
        obtain rfl := Option.some.inj hend
        exact absurd (List.mem_of_getLast? hlast) (notMem_of_all hblank (by decide))
    · rw [readClassCondition?_append hv hv' hne hname] at h
      cases h

theorem expandClasses_append (hw : allBlank w = true) (ht : t.head? = some '@') (s : List Char) :
    expandClasses (s ++ (w ++ t)) = expandClasses s ++ (w ++ expandClasses t) := by
  induction s using expandClasses.induct with
  | case1 s name after h ih =>
    obtain ⟨v, v', hv, hv', hne, hname, rfl⟩ := readClassCondition?_eq_some h
    have h' := readClassCondition?_append hv hv' hne hname (after ++ (w ++ t))
    rw [← List.append_assoc] at h'
    rw [expandClasses_of_eq_some h', expandClasses_of_eq_some h, ih, List.append_assoc]
  | case2 h =>
    have hbracket : '[' ∉ w := notMem_of_all hw (by decide)
    rw [expandClasses_nil, List.nil_append, List.nil_append,
      expandClasses_append_of_notMem hbracket]
  | case3 c rest h ih =>
    have h' := readClassCondition?_append_sign hw ht h
    rw [List.cons_append] at h'
    rw [List.cons_append, expandClasses_cons_of_eq_none h', expandClasses_cons_of_eq_none h, ih,
      List.cons_append]

theorem isWord_head_append (hw : allBlank w = true) (ht : t.head? = some '@') :
    ∀ c ∈ (w ++ t).head?, isWord c = false := by
  intro c hc
  cases w with
  | nil =>
    obtain rfl := Option.some.inj (ht.symm.trans hc)
    decide
  | cons b w =>
    obtain rfl := Option.some.inj hc
    exact isWord_of_isBlank (List.all_eq_true.1 hw b List.mem_cons_self)

theorem readNotEmpty?_append_sign (hw : allBlank w = true) (ht : t.head? = some '@')
    {s : List Char} (h : readNotEmpty? s = none) :
    readNotEmpty? (s ++ (w ++ t)) = none := by
  cases hfound : readNotEmpty? (s ++ (w ++ t)) with
  | none => rfl
  | some found =>
    obtain ⟨heq, hword⟩ := readNotEmpty?_eq_some_iff.1 hfound
    rcases List.append_eq_append_iff.1 heq with ⟨y, hy, hrest⟩ | ⟨rest, rfl, rfl⟩
    · have hmem : ∀ c ∈ y, c ∈ ":not-empty".toList := fun c hc => by
        rw [hy]
        exact List.mem_append_right s hc
      have hblank : allBlank y = true := allBlank_of_append_eq hw ht hrest fun hsign =>
        absurd (hmem '@' hsign) (by decide)
      cases y with
      | nil =>
        rw [List.append_nil] at hy
        have hself : readNotEmpty? s = some [] :=
          readNotEmpty?_eq_some_iff.2 ⟨by rw [hy, List.append_nil], fun c hc => by cases hc⟩
        rw [h] at hself
        cases hself
      | cons c y =>
        have hnone : (":not-empty".toList.any isBlank) = false := by decide
        rw [List.any_eq_true.2 ⟨c, hmem c List.mem_cons_self,
          List.all_eq_true.1 hblank c List.mem_cons_self⟩] at hnone
        cases hnone
    · have hself : readNotEmpty? (":not-empty".toList ++ rest) = some rest :=
        readNotEmpty?_eq_some_iff.2 ⟨rfl, fun c hc => hword c
          (by rw [List.head?_append, Option.mem_def.1 hc, Option.some_or, Option.mem_def])⟩
      rw [h] at hself
      cases hself

theorem expandNotEmpty_append (hw : allBlank w = true) (ht : t.head? = some '@') (s : List Char) :
    expandNotEmpty (s ++ (w ++ t)) = expandNotEmpty s ++ (w ++ expandNotEmpty t) := by
  induction s using expandNotEmpty.induct with
  | case1 s after h ih =>
    obtain ⟨rfl, hword⟩ := readNotEmpty?_eq_some_iff.1 h
    have h' : readNotEmpty? (":not-empty".toList ++ after ++ (w ++ t)) =
        some (after ++ (w ++ t)) := by
      refine readNotEmpty?_eq_some_iff.2 ⟨List.append_assoc .., ?_⟩
      cases after with
      | nil => exact isWord_head_append (w := w) hw ht
      | cons c after => exact hword
    rw [expandNotEmpty_of_eq_some h', expandNotEmpty_of_eq_some h, ih, List.append_assoc]
  | case2 h =>
    have hcolon : ':' ∉ w := notMem_of_all hw (by decide)
    rw [expandNotEmpty_nil, List.nil_append, List.nil_append,
      expandNotEmpty_append_of_notMem hcolon]
  | case3 c rest h ih =>
    have h' := readNotEmpty?_append_sign hw ht h
    rw [List.cons_append] at h'
    rw [List.cons_append, expandNotEmpty_cons_of_eq_none h', expandNotEmpty_cons_of_eq_none h, ih,
      List.cons_append]

/-- Blanks and an at sign part the shorthands before them from those after them. -/
theorem expandShorthands_append_sign (hw : allBlank w = true) (s t : List Char) :
    expandShorthands (s ++ (w ++ '@' :: t)) =
      expandShorthands s ++ (w ++ '@' :: expandShorthands t) := by
  have hclasses : expandClasses ('@' :: t) = '@' :: expandClasses t :=
    expandClasses_append_of_notMem (p := ['@']) (by decide) t
  have hnot : expandNotEmpty ('@' :: expandClasses t) = '@' :: expandNotEmpty (expandClasses t) :=
    expandNotEmpty_append_of_notMem (p := ['@']) (by decide) _
  rw [expandShorthands, expandClasses_append hw rfl, hclasses, expandNotEmpty_append hw rfl, hnot]
  rfl

end Sign

end Extraction.Query
