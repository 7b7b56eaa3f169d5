import Extraction.Proofs.Query.Verbatim

/-!
# Brackets that do not belong together

A query stands in brackets if its first character is the opening and its last one the closing
bracket; whether the one closes the other is not looked at. If the first bracket is closed before
the end, as in two conditions one after another, the query asks for every match all the same, and
the two brackets are taken off. What is left has a bracket that is closed without having been
opened. The scan for the attribute sign does not mind it, but where brackets were open before, it
may now find a sign; the name after that sign has the bracket in it, and the query is refused.

## Main definitions

* `Query.Depth.deeper` : the state of a scan with one more bracket open.

## Main results

* `Query.exists_closing_of_findMarkerFrom` : a sign that one more open bracket hides is followed by
  a closing bracket.
* `Query.outcome_parse_closedEarly` : what a query is read as whose brackets do not belong together.
-/

namespace Extraction.Query

open Text

/-! ### One bracket more -/

namespace Depth

/-- The state with one more bracket open. -/
def deeper (d : Depth) : Depth :=
  ⟨d.depth + 1, d.quote⟩

theorem deeper_ne_ground (d : Depth) : d.deeper ≠ ground := fun h =>
  absurd (congrArg depth h) (Nat.succ_ne_zero _)

/-- A character acts alike with one more bracket open, unless it closes what is not open. -/
theorem step_deeper (d : Depth) (c : Char) :
    d.deeper.step c = (d.step c).deeper ∨
      (c = ')' ∨ c = ']') ∧ d = ground ∧ d.deeper.step c = ground := by
  obtain ⟨depth, quote⟩ := d
  cases quote with
  | some q =>
    refine .inl ?_
    unfold step
    by_cases hc : c = q <;> simp [deeper, hc]
  | none =>
    by_cases hclose : c = ')' ∨ c = ']'
    · cases depth with
      | zero =>
        refine .inr ⟨hclose, rfl, ?_⟩
        rcases hclose with rfl | rfl <;> rfl
      | succ depth =>
        refine .inl ?_
        rcases hclose with rfl | rfl <;> rfl
    · refine .inl ?_
      rw [not_or] at hclose
      simp only [step, deeper]
      split_ifs <;> simp_all

/-- The depth does not fall without a closing bracket or parenthesis. -/
theorem exists_closing_of_after {d : Depth} {s : List Char} (hd : 0 < d.depth)
    (hs : (d.after s).depth = 0) : ')' ∈ s ∨ ']' ∈ s := by
  induction s generalizing d with
  | nil => exact absurd hs (Nat.ne_of_gt hd)
  | cons c s ih =>
    by_cases hclose : c = ')' ∨ c = ']'
    · rcases hclose with rfl | rfl
      · exact .inl List.mem_cons_self
      · exact .inr List.mem_cons_self
    · have hstep : 0 < (d.step c).depth := by
        rw [not_or] at hclose
        obtain ⟨depth, quote⟩ := d
        cases quote <;> simp only [step] <;> split_ifs <;> simp_all
      exact (ih hstep hs).imp (List.mem_cons_of_mem c) (List.mem_cons_of_mem c)

end Depth

/-- A sign that is not found when one more bracket is open, though this is closed later, has a
closing bracket or parenthesis after it. -/
theorem exists_closing_of_findMarkerFrom {d : Depth} {p r : List Char} {n : Nat}
    (hclosed : d.deeper.after p = Depth.ground) (hnone : findMarkerFrom d.deeper (p ++ r) = none)
    (hsome : findMarkerFrom d (p ++ r) = some n) :
    ')' ∈ (p ++ r).drop (n + 1) ∨ ']' ∈ (p ++ r).drop (n + 1) := by
  induction p generalizing d n with
  | nil => exact absurd hclosed d.deeper_ne_ground
  | cons c p ih =>
    rw [List.cons_append, List.drop_succ_cons]
    rw [List.cons_append, ← List.singleton_append, findMarkerFrom_append_eq_none_iff] at hnone
    have hnone : findMarkerFrom (d.deeper.step c) (p ++ r) = none := hnone.1
    rw [List.cons_append, findMarkerFrom] at hsome
    cases hrest : findMarkerFrom (d.step c) (p ++ r) with
    | some k =>
      rw [hrest] at hsome
      obtain rfl : k + 1 = n := Option.some.inj hsome
      rcases d.step_deeper c with hstep | ⟨hclose, rfl, hstep⟩
      · exact ih (hstep ▸ hclosed) (hstep ▸ hnone) hrest
      · -- From here on the two scans are the same.
        have hground : Depth.ground.step c = Depth.ground := by
          rcases hclose with rfl | rfl <;> rfl
        rw [hstep] at hnone
        rw [hground, hnone] at hrest
        cases hrest
    | none =>
      rw [hrest] at hsome
      simp only at hsome
      split_ifs at hsome with hsign
      obtain ⟨rfl, rfl⟩ := hsign
      obtain rfl := Option.some.inj hsome
      have hclosing : ')' ∈ p ∨ ']' ∈ p :=
        Depth.exists_closing_of_after (d := Depth.ground.deeper.step '@') Nat.one_pos
          (congrArg Depth.depth hclosed)
      exact hclosing.imp (List.mem_append_left r) (List.mem_append_left r)

/-! ### The text inside -/

/-- The sign of a trimmed text is that of the text. -/
theorem findMarker_blanks {w w' : List Char} (hw : allBlank w = true) (hw' : allBlank w' = true)
    (s : List Char) :
    findMarker (w ++ (s ++ w')) = (findMarker s).map (· + w.length) := by
  have hground : Depth.ground.after w = Depth.ground :=
    Depth.after_of_neutral Depth.sound_ground (Depth.all_isNeutral_of_all (by decide) hw)
  have hsign {v : List Char} (hv : allBlank v = true) (d : Depth) : findMarkerFrom d v = none :=
    findMarkerFrom_of_notMem (notMem_of_all hv (by decide)) d
  rw [findMarker, findMarkerFrom_append, hground, findMarkerFrom_append, hsign hw', hsign hw,
    Option.map_none, Option.none_or, Option.or_none]
  rfl

section Inside

variable {m : List Char}

/-- What follows the text inside the brackets, after it has been trimmed. -/
private theorem head?_blanks_bracket {w : List Char} (hw : allBlank w = true) :
    ∀ c ∈ (w ++ [']']).head?, isWord c = false ∧ c ≠ '=' := by
  intro c hc
  cases w with
  | nil =>
    obtain rfl := Option.some.inj hc
    decide
  | cons b w =>
    obtain rfl := Option.some.inj hc
    have hb := List.all_eq_true.1 hw b List.mem_cons_self
    refine ⟨isWord_of_isBlank hb, ?_⟩
    rintro rfl
    revert hb
    decide

theorem guarded_longhand_trim (hguarded : Guarded ('[' :: m ++ [']']))
    (hlonghand : Longhand ('[' :: m ++ [']'])) : Guarded (trim m) ∧ Longhand (trim m) := by
  obtain ⟨w, w', -, hw', hm⟩ := exists_blanks_trim m
  have hs : '[' :: m ++ [']'] = ('[' :: w) ++ (trim m ++ (w' ++ [']'])) := by
    conv_lhs => rw [hm]
    simp
  have hhead := head?_blanks_bracket hw'
  rw [hs] at hguarded hlonghand
  exact ⟨hguarded.right.left fun h => (hhead '=' h).2 rfl,
    hlonghand.right.left fun c hc => (hhead c hc).1⟩

/-- Inside brackets that do not belong together there is a closing one. -/
theorem exists_closing_of_closedEarly (hclosed : ClosedEarly ('[' :: m ++ [']'])) :
    ∃ p r, m = p ++ r ∧ Depth.ground.deeper.after p = Depth.ground := by
  obtain ⟨p, r, hs, hp, hr, hground⟩ := hclosed
  obtain ⟨c, p, rfl⟩ := List.exists_cons_of_ne_nil hp
  obtain rfl : '[' = c := (List.cons.inj hs).1
  refine ⟨p, r.dropLast, ?_, hground⟩
  have hm := congrArg List.dropLast hs
  rw [List.dropLast_append_of_ne_nil hr, List.dropLast_concat] at hm
  exact (List.cons.inj hm).2

/-- A sign that is found only after the brackets have been taken off has a closing bracket or
parenthesis after it. -/
theorem exists_closing_of_findMarker_trim (hclosed : ClosedEarly ('[' :: m ++ [']']))
    (hsign : findMarker ('[' :: m ++ [']']) = none) {n : Nat} (hn : findMarker (trim m) = some n) :
    ∃ c, (c = ')' ∨ c = ']') ∧ c ∈ trim ((trim m).drop (n + 1)) := by
  obtain ⟨p, r, hm, hground⟩ := exists_closing_of_closedEarly hclosed
  obtain ⟨w, w', hw, hw', hblanks⟩ := exists_blanks_trim m
  rw [List.append_assoc] at hblanks
  have hnone : findMarkerFrom Depth.ground.deeper m = none := by
    have hstep := (findMarkerFrom_append_eq_none_iff (s := ['['])).1 hsign
    exact (findMarkerFrom_append_eq_none_iff.1 hstep.1).2
  have hsome : findMarkerFrom Depth.ground m = some (n + w.length) := by
    have h := findMarker_blanks hw hw' (trim m)
    rwa [← hblanks, hn] at h
  have hclosing := exists_closing_of_findMarkerFrom hground (hm ▸ hnone) (hm ▸ hsome)
  have hdrop : m.drop (n + w.length + 1) = (trim m ++ w').drop (n + 1) := by
    conv_lhs => rw [hblanks]
    rw [show n + w.length + 1 = w.length + (n + 1) by omega, List.drop_length_add_append]
  have hmem {c : Char} (hblank : isBlank c = false) (hc : c ∈ m.drop (n + w.length + 1)) :
      c ∈ trim ((trim m).drop (n + 1)) := by
    rw [hdrop, List.drop_append, List.mem_append] at hc
    rcases hc with hc | hc
    · exact mem_trim hc hblank
    · exact absurd (List.mem_of_mem_drop hc) (notMem_of_all hw' hblank)
  rw [← hm] at hclosing
  rcases hclosing with hc | hc
  · exact ⟨')', .inl rfl, hmem (by decide) hc⟩
  · exact ⟨']', .inr rfl, hmem (by decide) hc⟩

theorem trim_ne_nil_of_closedEarly (hclosed : ClosedEarly ('[' :: m ++ [']'])) : trim m ≠ [] := by
  obtain ⟨p, r, rfl, hground⟩ := exists_closing_of_closedEarly hclosed
  have hclosing : ')' ∈ p ∨ ']' ∈ p :=
    Depth.exists_closing_of_after (d := Depth.ground.deeper) Nat.one_pos
      (congrArg Depth.depth hground)
  rcases hclosing with hc | hc
  · exact List.ne_nil_of_mem (mem_trim (List.mem_append_left r hc) (by decide))
  · exact List.ne_nil_of_mem (mem_trim (List.mem_append_left r hc) (by decide))

end Inside

/-! ### Reading -/

/-- What is inside brackets that do not belong together is the selector, or a sign in it is followed
by no name. -/
theorem Descriptor.read_closedEarly {s : List Char} (hbrackets : isBracketed s = true)
    (hclosed : ClosedEarly s) (hguarded : Guarded s) (hlonghand : Longhand s)
    (hsign : findMarker s = none) :
    let inside := insideBrackets s
    findMarker inside = none ∧
        Descriptor.read s = .ok ⟨some (String.ofList inside), none, [], true⟩ ∨
      findMarker inside ≠ none ∧ ∃ name, Descriptor.read s = .error (.badAttribute name) := by
  intro inside
  obtain ⟨m, rfl⟩ := exists_of_isBracketed hbrackets
  have hinside : inside = trim m := insideBrackets_bracketed m
  have hne : trim m ≠ [] := trim_ne_nil_of_closedEarly hclosed
  obtain ⟨hguarded, hlonghand⟩ := guarded_longhand_trim hguarded hlonghand
  rw [hinside, Descriptor.read_bracketed, if_neg (by simpa using hne)]
  simp only [Descriptor.readBody, splitFilters_of_guarded hguarded, List.headD_cons,
    expandShorthands_eq_self_iff.2 hlonghand]
  cases hmarker : findMarker (trim m) with
  | none =>
    refine .inl ⟨rfl, ?_⟩
    rw [splitAttribute, hmarker, (trimmed_trim m).trim_eq]
    simp only [Spelling.nonempty?_of_ne_nil hne]
    rfl
  | some n =>
    obtain ⟨c, hc, hmem⟩ := exists_closing_of_findMarker_trim hclosed hsign hmarker
    have hname : isAttributeName (trim ((trim m).drop (n + 1))) = false := by
      cases h : isAttributeName (trim ((trim m).drop (n + 1))) with
      | false => rfl
      | true =>
        refine absurd hmem (Spelling.notMem_of_isAttributeName h ?_)
        rcases hc with rfl | rfl <;> decide
    refine .inr ⟨by simp, String.ofList (trim ((trim m).drop (n + 1))), ?_⟩
    rw [splitAttribute, hmarker]
    simp only [hname, Bool.false_eq_true, if_false]

/-- **Brackets that do not belong together ask for every match.** Take any query that is not too
long and stands in brackets, of which the first one is closed before the end; no pipe separates
filters in it, it has no shorthands and no at sign outside brackets, parentheses and quotes. It is
never read for the first match and as the selector that it is: either what is inside the brackets
is the selector, for every match, or that has an at sign outside brackets, and then the query is
refused for what follows the sign. -/
theorem outcome_parse_closedEarly (query : String)
    (hbrackets : isBracketed (trim query.toList) = true)
    (hlong : (trim query.toList).length ≤ maxLength) (hclosed : ClosedEarly (trim query.toList))
    (hguarded : Guarded (trim query.toList)) (hlonghand : Longhand (trim query.toList))
    (hsign : findMarker (trim query.toList) = none) (capacity : Int) (uses : List Use)
    (ns : List Notice) :
    let t := trim query.toList
    let inside := insideBrackets t
    let o := (parse (.text query)).outcomeFrom ⟨.filled capacity uses, ns⟩
    findMarker inside = none ∧ o = (.ok ⟨some (String.ofList inside), none, [], true⟩, []) ∨
      findMarker inside ≠ none ∧ ∃ name,
        o = (.error (.refused (.badAttribute name) (.text (String.ofList t))), []) := by
  intro t inside o
  have hne : t ≠ [] := by
    intro h
    rw [show trim query.toList = [] from h] at hbrackets
    cases hbrackets
  have ho : o = ((Descriptor.read t).mapError (refusal (.text query) (String.ofList t)), []) := by
    rw [← meaning_text hne hlong]
    exact (yields_parse (.text query)).outcomeFrom (Cache.faithful_filled capacity uses)
  rcases Descriptor.read_closedEarly hbrackets hclosed hguarded hlonghand hsign with
    ⟨hmarker, hread⟩ | ⟨hmarker, name, hread⟩
  · exact .inl ⟨hmarker, by rw [ho, hread]; rfl⟩
  · exact .inr ⟨hmarker, name, by rw [ho, hread]; rfl⟩

/-- Two conditions, in the second of which a sign comes to stand outside brackets. -/
theorem outcome_parse_closedEarly_sign :
    findMarker (insideBrackets "[a@b] [c]".toList) ≠ none ∧
      ∃ name, (parse (.text "[a@b] [c]")).outcomeFrom {} =
        (.error (.refused (.badAttribute name) (.text "[a@b] [c]")), []) := by
  have hmarker : findMarker (insideBrackets "[a@b] [c]".toList) ≠ none := by decide +kernel
  rcases outcome_parse_closedEarly "[a@b] [c]" (by decide) (by decide)
    ⟨"[a@b]".toList, " [c]".toList, by decide, by decide, by decide, by decide⟩ (by decide)
    (by decide +kernel) (by decide) 1000 [] [] with ⟨hnone, -⟩ | ⟨-, hrefused⟩
  · exact absurd hnone hmarker
  · exact ⟨hmarker, hrefused⟩

/-- A condition for a node and one for a node below it are read as if the two stood inside brackets
that belong together. -/
theorem outcome_parse_descendant :
    let query := "[a] [b]"
    isBracketed query.toList = true ∧ ClosedEarly query.toList ∧ Guarded query.toList ∧
      Longhand query.toList ∧ findMarker query.toList = none ∧
      ((parse (.text query)).outcomeFrom {}).1.toOption = some ⟨some "a] [b", none, [], true⟩ :=
  ⟨by decide, ⟨"[a]".toList, " [b]".toList, by decide, by decide, by decide, by decide⟩, by decide,
    by decide +kernel, by decide, by decide +kernel⟩

end Extraction.Query
