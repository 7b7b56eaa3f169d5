import Extraction.Proofs.Query.Spelling

/-!
# What descriptors are like

Whatever text is read as a query, its descriptor has a selector, an attribute and filters of a
certain form, or none. No step of reading can spoil this: a pipe is followed by an equals sign in
every piece that the pipes of a query leave, and neither blanks that are trimmed away, quotes and
colons that are dropped, shorthands that are replaced nor the cut at an at sign come between the
two.

## Main definitions

* `Query.FilterCall.WellFormed`, `Query.Descriptor.WellFormed` : the form of calls and descriptors.

## Main results

* `Query.guarded_of_mem_splitArgumentsFrom` : the parts of a segment between its colons.
* `Query.wellFormed_of_mem_readChain` : the calls of a chain.
* `Query.Respelled.guarded` : texts whose shorthands have been replaced.
* `Query.outcome_parse_wellFormed` : what a query is read as is well-formed.
-/

namespace Extraction.Query

open Text

/-- The form of a call: its name is trimmed, and every pipe of its name and of its arguments is
followed by an equals sign. -/
structure FilterCall.WellFormed (c : FilterCall) : Prop where
  trimmed : Trimmed c.name.toList
  guarded : Guarded c.name.toList
  arguments : ∀ a ∈ c.arguments, Guarded a.toList

/-- The form of a descriptor: its selector is a trimmed text that is not empty, and of which every
pipe is followed by an equals sign; its attribute is made of word characters, hyphens and colons and
is not empty; its calls are well-formed. -/
structure Descriptor.WellFormed (d : Descriptor) : Prop where
  selector : ∀ s ∈ d.selector, s.toList ≠ [] ∧ Trimmed s.toList ∧ Guarded s.toList
  attributeName : ∀ a ∈ d.attributeName,
    a.toList ≠ [] ∧ ∀ c ∈ a.toList, isWord c = true ∨ c = '-' ∨ c = ':'
  filters : ∀ c ∈ d.filters, c.WellFormed

/-! ### Calls -/

/-- A character that is no equals sign comes after no pipe of a guarded text, and may be left
out. -/
theorem Guarded.without {s t : List Char} {c : Char} (h : Guarded (s ++ c :: t)) (hc : c ≠ '=') :
    Guarded s ∧ Guarded t :=
  ⟨h.left fun heq => hc (Option.some.inj heq), h.right.2⟩

/-- The parts of a segment from a point on are guarded if what has been read of the present part and
what follows it are so together. Quotes and colons are left out between them. -/
theorem guarded_of_mem_splitArgumentsFrom {quote : Option Char} {current rest : List Char}
    (hquote : ∀ q ∈ quote, isQuote q = true) (h : Guarded (current.reverse ++ rest)) :
    ∀ p ∈ splitArgumentsFrom quote current rest, Guarded p := by
  induction rest generalizing quote current with
  | nil =>
    rw [List.append_nil] at h
    cases quote <;> simpa [splitArgumentsFrom] using h
  | cons c rest ih =>
    have hnext : Guarded ((c :: current).reverse ++ rest) := by
      rwa [List.reverse_cons, List.append_assoc, List.singleton_append]
    cases quote with
    | some q =>
      rw [splitArgumentsFrom]
      split_ifs with hc
      · have hq : c ≠ '=' := by
          rintro rfl
          have hquoted := hquote q rfl
          rw [← hc] at hquoted
          exact absurd hquoted (by decide)
        obtain ⟨hcurrent, hrest⟩ := h.without hq
        exact ih (by simp) (hcurrent.append hrest)
      · exact ih hquote hnext
    | none =>
      rw [splitArgumentsFrom]
      split_ifs with hopen hcolon
      · rw [Bool.and_eq_true, List.isEmpty_iff] at hopen
        obtain ⟨hc, rfl⟩ := hopen
        refine ih (fun q hq => ?_) (show Guarded ([].reverse ++ rest) from h.2)
        obtain rfl := Option.some.inj hq
        exact hc
      · obtain ⟨hcurrent, hrest⟩ := h.without (c := c) (by rw [hcolon]; decide)
        intro p hp
        rcases List.mem_cons.1 hp with rfl | hp
        · exact hcurrent
        · exact ih (by simp) (show Guarded ([].reverse ++ rest) from hrest) p hp
      · exact ih (by simp) hnext

theorem wellFormed_of_readCall? {segment : List Char} (hs : Guarded segment) {c : FilterCall}
    (h : readCall? segment = some c) : c.WellFormed := by
  have hparts : ∀ p ∈ splitArguments (trim segment), Guarded p :=
    guarded_of_mem_splitArgumentsFrom (by simp) (show Guarded ([].reverse ++ _) from hs.trim)
  simp only [readCall?] at h
  split_ifs at h
  split at h
  · cases h
  · rename_i name arguments hsplit
    obtain rfl := Option.some.inj h
    rw [hsplit] at hparts
    refine ⟨?_, ?_, fun a ha => ?_⟩
    · rw [String.toList_ofList]
      exact trimmed_trim name
    · rw [String.toList_ofList]
      exact (hparts name List.mem_cons_self).trim
    · obtain ⟨p, hp, rfl⟩ := List.mem_map.1 ha
      rw [String.toList_ofList]
      exact hparts p (List.mem_cons_of_mem name hp)

/-- The calls of a chain are well-formed. -/
theorem wellFormed_of_mem_readChain {s : List Char} {c : FilterCall} (hc : c ∈ readChain s) :
    c.WellFormed := by
  rw [readChain_eq_filterMap] at hc
  obtain ⟨piece, hpiece, hcall⟩ := List.mem_filterMap.1 hc
  exact wellFormed_of_readCall? (guarded_of_mem_pipePieces hpiece) hcall

/-! ### Selectors and attributes -/

/-- An equals sign at the start of a text belongs to no shorthand. -/
theorem Respelled.head?_eq_equals {s t : List Char} (h : Respelled s t)
    (hs : s.head? = some '=') : t.head? = some '=' := by
  cases h with
  | nil => exact hs
  | char c h => exact hs
  | condition hw hw' hname hne h => cases hs
  | notEmpty h => simp at hs

/-- Replacing shorthands parts no pipe from the equals sign after it. -/
theorem Respelled.guarded {s t : List Char} (h : Respelled s t) (hs : Guarded s) : Guarded t := by
  induction h with
  | nil => trivial
  | char c h ih => exact ⟨fun hc => h.head?_eq_equals (hs.1 hc), ih hs.2⟩
  | @condition w name w' s t hw hw' hname hne h ih =>
    have hpipe : '|' ∉ '.' :: name := by
      simp [notMem_of_all hname (c := '|') (by decide)]
    exact (guarded_of_notMem hpipe).append (ih hs.right)
  | notEmpty h ih =>
    exact (guarded_of_notMem (s := ":not(:empty)".toList) (by decide)).append (ih hs.right)

theorem guarded_expandShorthands {s : List Char} (hs : Guarded s) :
    Guarded (expandShorthands s) :=
  (respelled_expandNotEmpty _).guarded ((respelled_expandClasses s).guarded hs)

/-- Where the sign is found there is one. -/
theorem eq_append_of_findMarkerFrom {d : Depth} {s : List Char} {n : Nat}
    (h : findMarkerFrom d s = some n) : s = s.take n ++ '@' :: s.drop (n + 1) := by
  induction s generalizing d n with
  | nil => cases h
  | cons c s ih =>
    rw [findMarkerFrom] at h
    cases hrest : findMarkerFrom (d.step c) s with
    | some k =>
      rw [hrest] at h
      obtain rfl := Option.some.inj h
      rw [List.take_succ_cons, List.drop_succ_cons, List.cons_append, ← ih hrest]
    | none =>
      rw [hrest] at h
      simp only at h
      split_ifs at h with hsign
      obtain rfl := Option.some.inj h
      rw [hsign.1]
      rfl

/-- A trimmed piece of a guarded text, if it is not empty, may be a selector. -/
theorem selector_of_nonempty? {s : List Char} (hs : Guarded s) :
    ∀ t ∈ nonempty? (trim s), t.toList ≠ [] ∧ Trimmed t.toList ∧ Guarded t.toList := by
  intro t ht
  rw [nonempty?, Option.mem_def] at ht
  split_ifs at ht with hempty
  obtain rfl := Option.some.inj ht
  rw [String.toList_ofList]
  exact ⟨by simpa using hempty, trimmed_trim s, hs.trim⟩

theorem wellFormed_of_splitAttribute {s : List Char} (hs : Guarded s)
    {selector attributeName : Option String}
    (h : splitAttribute s = .ok (selector, attributeName)) {filters : List FilterCall}
    (hfilters : ∀ c ∈ filters, c.WellFormed) (getAll : Bool) :
    (⟨selector, attributeName, filters, getAll⟩ : Descriptor).WellFormed := by
  rw [splitAttribute] at h
  cases hmarker : findMarker s with
  | none =>
    rw [hmarker] at h
    obtain ⟨rfl, rfl⟩ := Prod.mk.inj (Except.ok.inj h)
    exact ⟨selector_of_nonempty? hs, by simp, hfilters⟩
  | some n =>
    rw [hmarker] at h
    simp only at h
    split_ifs at h with hname
    obtain ⟨rfl, rfl⟩ := Prod.mk.inj (Except.ok.inj h)
    have hbefore : Guarded (s.take n) := by
      rw [eq_append_of_findMarkerFrom hmarker] at hs
      exact (hs.without (by decide)).1
    refine ⟨selector_of_nonempty? hbefore, fun a ha => ?_, hfilters⟩
    obtain rfl := Option.some.inj ha
    rw [String.toList_ofList]
    refine ⟨Spelling.ne_nil_of_isAttributeName hname, fun c hc => ?_⟩
    rw [isAttributeName, Bool.and_eq_true] at hname
    simpa [isAttributeChar, or_assoc] using List.all_eq_true.1 hname.2 c hc

/-! ### Descriptors -/

/-- The first segment of a trimmed text is guarded. -/
theorem guarded_headD_splitFilters {s : List Char} (hs : Trimmed s) :
    Guarded ((splitFilters s).headD []) := by
  rw [← hs.trim_eq, splitFilters_trim]
  cases h : pipePieces s with
  | nil => trivial
  | cons piece more =>
    exact (guarded_of_mem_pipePieces (h ▸ List.mem_cons_self)).trim

/-- What a trimmed text is read as is well-formed. -/
theorem Descriptor.wellFormed_of_read {s : List Char} (hs : Trimmed s) {d : Descriptor}
    (h : read s = .ok d) : d.WellFormed := by
  obtain ⟨hhead, hchain, -⟩ := readBody_ok_iff.1 (readBody_of_read h)
  have hfirst := guarded_headD_splitFilters (trimmed_unbracketed hs)
  exact wellFormed_of_splitAttribute (guarded_expandShorthands hfirst) hhead
    (fun c hc => wellFormed_of_mem_readChain (hchain ▸ hc)) d.getAll

/-- **What a query is read as is well-formed.** Take any query and a store that reading queries has
filled in any way. If the query is read, its selector is a trimmed text that is not empty, or there
is none; its attribute is made of word characters, hyphens and colons and is not empty, or there is
none; the names of its filters are trimmed; and in the selector, in the names and in the arguments
of the filters every pipe is followed by an equals sign. -/
theorem outcome_parse_wellFormed {query : String} {capacity : Int} {uses : List Use}
    {ns ws : List Notice} {d : Descriptor}
    (h : (parse (.text query)).outcomeFrom ⟨.filled capacity uses, ns⟩ = (.ok d, ws)) :
    d.WellFormed :=
  Descriptor.wellFormed_of_read (trimmed_trim query.toList) (read_of_outcome h)

/-- A query in which a shorthand, two quotes and a pipe all come before an equals sign. -/
theorem outcome_parse_wellFormed_operators :
    let d : Descriptor := ⟨some ".a|=b", some "x", [⟨"|=f", ["p|=", "q|=g"]⟩], true⟩
    (parse (.text "[ [ .a]|=b @ x | ' |=f' :'p|=':'q | =g' ]")).outcomeFrom {} = (.ok d, []) ∧
      d.WellFormed := by
  intro d
  have hread : Descriptor.read (trim "[ [ .a]|=b @ x | ' |=f' :'p|=':'q | =g' ]".toList) =
      .ok d := by decide +kernel
  have h := outcome_of_read (by decide) (by decide) hread 1000 [] []
  exact ⟨h, outcome_parse_wellFormed h⟩

end Extraction.Query
