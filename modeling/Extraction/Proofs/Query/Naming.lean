import Extraction.Proofs.Query.Verbatim

/-!
# Names of attributes

The shorthands of a query are replaced before it is cut at its at sign, so that they are replaced in
the name of the attribute as well. The one that can stand in a name is `:not-empty`. What takes its
place has parentheses, and no name has these: a query with such a name is refused, and the message
cites a name that was not written.

## Main definitions

* `Query.isPlain` : characters of selectors that stand for nothing but themselves in a query.

## Main results

* `Query.isAttributeName_expandShorthands_iff` : names that stay names.
* `Query.outcome_parse_name` : which names of attributes are read, and what happens to the others.
-/

namespace Extraction.Query

open Text

/-- Whether a character is no pipe, quote, bracket, parenthesis or blank. -/
def isPlain (c : Char) : Bool :=
  c ≠ '|' && Depth.isNeutral c && !isBlank c

theorem expandNotEmpty_eq_self_of_notMem {s : List Char} (h : '(' ∉ expandNotEmpty s) :
    expandNotEmpty s = s := by
  induction s using expandNotEmpty.induct with
  | case1 s after hread ih =>
    rw [expandNotEmpty_of_eq_some hread] at h
    simp at h
  | case2 hread => exact expandNotEmpty_nil
  | case3 c rest hread ih =>
    rw [expandNotEmpty_cons_of_eq_none hread] at h ⊢
    rw [ih fun hrest => h (List.mem_cons_of_mem c hrest)]

/-- A name is one also after its shorthands have been replaced exactly if it has none. -/
theorem isAttributeName_expandShorthands_iff {a : List Char} (ha : isAttributeName a = true) :
    isAttributeName (expandShorthands a) = true ↔ Longhand a := by
  have hclasses : expandClasses a = a := by
    have h := expandClasses_append_of_notMem
      (Spelling.notMem_of_isAttributeName ha (c := '[') (by decide)) []
    rwa [expandClasses_nil, List.append_nil] at h
  rw [← expandShorthands_eq_self_iff]
  constructor
  · intro h
    rw [expandShorthands, hclasses] at h ⊢
    exact expandNotEmpty_eq_self_of_notMem (Spelling.notMem_of_isAttributeName h (by decide))
  · intro h
    rwa [h]

theorem isBlank_of_isPlain {c : Char} (hc : isPlain c = true) : isBlank c = false := by
  simp only [isPlain, Bool.and_eq_true, Bool.not_eq_true'] at hc
  exact hc.2

section Head

variable {s a : List Char}

/-- The parts of a selector of plain characters, a sign and the name of an attribute. -/
theorem splitAttribute_plain (hs : s.all isPlain = true) (ha : isAttributeName a = true) :
    splitAttribute (expandShorthands (s ++ '@' :: a)) =
      if isAttributeName (expandShorthands a) then
        .ok (nonempty? (expandShorthands s), some (String.ofList (expandShorthands a)))
      else .error (String.ofList (expandShorthands a)) := by
  have hneutral : s.all Depth.isNeutral = true := Depth.all_isNeutral_of_all (by decide) hs
  have htrimmed : Trimmed s :=
    trimmed_of_forall fun c hc => isBlank_of_isPlain (List.all_eq_true.1 hs c hc)
  have hsign : '@' ∉ a := Spelling.notMem_of_isAttributeName ha (by decide)
  have h := Spelling.splitAttribute_append_sign (w := [])
    (Depth.after_of_neutral Depth.sound_ground hneutral) rfl (findMarkerFrom_of_notMem hsign _)
  rwa [List.nil_append, (Spelling.trimmed_expandShorthands htrimmed).trim_eq,
    (Spelling.trimmed_expandShorthands (Spelling.trimmed_of_isAttributeName ha)).trim_eq] at h

theorem trimmed_plain (hs : s.all isPlain = true) (ha : isAttributeName a = true) :
    Trimmed (s ++ '@' :: a) := by
  refine trimmed_of_forall fun c hc => ?_
  rcases List.mem_append.1 hc with hc | hc
  · exact isBlank_of_isPlain (List.all_eq_true.1 hs c hc)
  · rcases List.mem_cons.1 hc with rfl | hc
    · decide
    · exact Spelling.isBlank_of_isAttributeName ha c hc

theorem guarded_plain (hs : s.all isPlain = true) (ha : isAttributeName a = true) :
    Guarded (s ++ '@' :: a) := by
  refine guarded_of_notMem fun hc => ?_
  rcases List.mem_append.1 hc with hc | hc
  · exact notMem_of_all hs (by decide) hc
  · rcases List.mem_cons.1 hc with hc | hc
    · cases hc
    · exact Spelling.notMem_of_isAttributeName ha (by decide) hc

theorem isBracketed_plain (hs : s.all isPlain = true) : isBracketed (s ++ '@' :: a) = false := by
  cases s with
  | nil => rfl
  | cons c s =>
    rw [List.all_cons, Bool.and_eq_true] at hs
    have hc : c ≠ '[' := by
      rintro rfl
      exact absurd hs.1 (by decide)
    simp [isBracketed, hc]

theorem read_plain (hs : s.all isPlain = true) (ha : isAttributeName a = true) :
    Descriptor.read (s ++ '@' :: a) =
      if isAttributeName (expandShorthands a) then
        .ok ⟨nonempty? (expandShorthands s), some (String.ofList (expandShorthands a)), [], false⟩
      else .error (.badAttribute (String.ofList (expandShorthands a))) := by
  rw [Descriptor.read_of_not_bracketed (isBracketed_plain hs), Descriptor.readBody,
    splitFilters_of_guarded (guarded_plain hs ha)]
  simp only [List.headD_cons, splitAttribute_plain hs ha]
  split_ifs <;> rfl

end Head

/-- **A query is read with the name of its attribute exactly if the name has no shorthand.** Take
any selector without pipes, quotes, brackets, parentheses and blanks, any name of an attribute, and
a store that reading queries has filled in any way, and let the two with an at sign between them be
not too long. If no shorthand begins in the name, the query is read as the selector, with its
shorthands replaced, and the name as it stands. Otherwise it is refused for the name with its
shorthands replaced. -/
theorem outcome_parse_name (selector name : String) (hs : selector.toList.all isPlain = true)
    (ha : isAttributeName name.toList = true)
    (hlong : (selector ++ "@" ++ name).length ≤ maxLength) (capacity : Int) (uses : List Use)
    (ns : List Notice) :
    let query := selector ++ "@" ++ name
    let o := (parse (.text query)).outcomeFrom ⟨.filled capacity uses, ns⟩
    (Longhand name.toList →
        o = (.ok ⟨nonempty? (expandShorthands selector.toList), some name, [], false⟩, [])) ∧
      (¬Longhand name.toList → o = (.error (.refused (.badAttribute
        (String.ofList (expandShorthands name.toList))) (.text query)), [])) := by
  intro query o
  have htext : query.toList = selector.toList ++ '@' :: name.toList := by simp [query]
  have htrim : trim query.toList = query.toList := by
    rw [htext, (trimmed_plain hs ha).trim_eq]
  have hne : trim query.toList ≠ [] := by
    rw [htrim, htext]
    simp
  have hlength : (trim query.toList).length ≤ maxLength := by rwa [htrim, String.length_toList]
  have ho : o = (meaning (.text query), []) := outcomeFrom_parse (.text query) capacity uses ns
  rw [ho, meaning_text hne hlength, htrim, String.ofList_toList, htext, read_plain hs ha]
  constructor
  · intro h
    have hfix : expandShorthands name.toList = name.toList := expandShorthands_eq_self_iff.2 h
    rw [hfix, if_pos ha, String.ofList_toList]
    rfl
  · intro h
    rw [if_neg fun hname => h ((isAttributeName_expandShorthands_iff ha).1 hname)]
    rfl

/-- A name with `:not-empty` inside a word is kept, and one with it at the end is refused. -/
theorem outcome_parse_name_prefixed :
    let outcome (text : String) := (parse (.text text)).outcomeFrom {}
    outcome ".a:not-empty@x:not-emptyish" =
        (.ok ⟨some ".a:not(:empty)", some "x:not-emptyish", [], false⟩, []) ∧
      outcome "p@x:not-empty" =
        (.error (.refused (.badAttribute "x:not(:empty)") (.text "p@x:not-empty")), []) := by
  intro outcome
  have hselector : nonempty? (expandShorthands ".a:not-empty".toList) =
      some ".a:not(:empty)" := by decide +kernel
  have hname : String.ofList (expandShorthands "x:not-empty".toList) = "x:not(:empty)" := by
    decide +kernel
  have hkept := (outcome_parse_name ".a:not-empty" "x:not-emptyish" (by decide +kernel)
    (by decide +kernel) (by decide) 1000 [] []).1 (by decide +kernel)
  have hrefused := (outcome_parse_name "p" "x:not-empty" (by decide +kernel) (by decide +kernel)
    (by decide) 1000 [] []).2 (by decide +kernel)
  rw [hselector] at hkept
  rw [hname] at hrefused
  exact ⟨hkept, hrefused⟩

/-- A selector of plain characters and the name of an attribute that are together refused. -/
theorem outcome_parse_notEmptyName :
    "p".toList.all isPlain = true ∧ isAttributeName "x:not-empty".toList = true ∧
      ((parse (.text "p@x:not-empty")).outcomeFrom {}).1.toOption = none := by
  decide +kernel

end Extraction.Query
