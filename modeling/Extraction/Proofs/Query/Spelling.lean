import Extraction.Proofs.Query.Bracket
import Extraction.Proofs.Query.Call
import Extraction.Proofs.Query.Shorthand

/-!
# Spellings of queries

A query is written from its parts: a selector, an attribute after an at sign, filter calls after
pipes, and brackets around all of it if every match is asked for. Blanks may stand at the two ends,
inside the brackets, around the at sign and around every pipe. Each part keeps to what its place
allows, and then none of the steps of reading takes a character from another part: however the
query is written, it is read as the parts that it was written from.

## Main definitions

* `Query.Spelling` : how a query is written.
* `Query.Spelling.text`, `Query.Spelling.meaning` : its text and the descriptor that is meant.
* `Query.Spelling.Proper` : what the parts of a query keep to.

## Main results

* `Query.Spelling.Proper.splitFilters_body`, `Query.Spelling.Proper.splitAttribute_head` : the
  segments of a query, and the parts of the first one.
* `Query.Spelling.outcome_parse` : a query is read as the parts that it was written from.
-/

namespace Extraction.Query

open Text

/-- How a query is written. Blanks come in pairs, those before something and those after it. -/
structure Spelling where
  /-- The selector. -/
  selector : Option (List Char)
  /-- The attribute. -/
  attributeName : Option (List Char)
  /-- The filter calls. -/
  calls : List Spelling.Call
  /-- Whether every match is asked for. -/
  getAll : Bool
  /-- The blanks around the whole. -/
  around : List Char × List Char
  /-- The blanks just inside the brackets. -/
  inside : List Char × List Char
  /-- The blanks around the at sign. -/
  sign : List Char × List Char

namespace Spelling

/-- The selector and the attribute. -/
def head (p : Spelling) : List Char :=
  p.selector.getD [] ++
    match p.attributeName with
    | none => []
    | some a => p.sign.1 ++ '@' :: (p.sign.2 ++ a)

/-- The selector, the attribute and the filter calls. -/
def body (p : Spelling) : List Char :=
  p.head ++ chain p.calls

/-- The body, with brackets around it if every match is asked for. -/
def enclosed (p : Spelling) : List Char :=
  if p.getAll then '[' :: (p.inside.1 ++ p.body ++ p.inside.2) ++ [']'] else p.body

/-- The text of a query. -/
def text (p : Spelling) : String :=
  String.ofList (p.around.1 ++ p.enclosed ++ p.around.2)

/-- The descriptor that is meant. -/
def meaning (p : Spelling) : Descriptor where
  selector := p.selector.map fun s => String.ofList (expandShorthands s)
  attributeName := p.attributeName.map String.ofList
  filters := p.calls.map Call.meaning
  getAll := p.getAll

/-- A query that may be written so. Its selector is a trimmed text whose pipes are guarded; its
attribute is a name without shorthands. Before an attribute, the scan of the selector for the at
sign ends outside quotes, brackets and parentheses; without an attribute, it finds no sign. -/
structure Proper (p : Spelling) : Prop where
  selector : ∀ s ∈ p.selector, s ≠ [] ∧ Trimmed s ∧ Guarded s
  attributeName : ∀ a ∈ p.attributeName, isAttributeName a = true ∧ expandShorthands a = a
  closed : p.attributeName.isSome → ∀ s ∈ p.selector, Depth.ground.after s = Depth.ground
  noSign : p.attributeName = none → ∀ s ∈ p.selector, findMarker s = none
  calls : ∀ c ∈ p.calls, c.Proper
  something : p.selector.isSome ∨ p.attributeName.isSome ∨ p.calls ≠ []
  around : allBlank p.around.1 = true ∧ allBlank p.around.2 = true
  inside : allBlank p.inside.1 = true ∧ allBlank p.inside.2 = true
  sign : allBlank p.sign.1 = true ∧ allBlank p.sign.2 = true

/-! ### Names of attributes -/

section Attribute

variable {a : List Char}

theorem isBlank_of_isAttributeName (ha : isAttributeName a = true) :
    ∀ c ∈ a, isBlank c = false := by
  rw [isAttributeName, Bool.and_eq_true] at ha
  intro c hc
  have hchar := List.all_eq_true.1 ha.2 c hc
  cases hblank : isBlank c with
  | false => rfl
  | true =>
    rw [isAttributeChar, isWord_of_isBlank hblank] at hchar
    have hpunct : c = '-' ∨ c = ':' := by simpa using hchar
    rcases hpunct with rfl | rfl <;> revert hblank <;> decide

theorem ne_nil_of_isAttributeName (ha : isAttributeName a = true) : a ≠ [] := by
  rw [isAttributeName, Bool.and_eq_true] at ha
  simpa using ha.1

theorem trimmed_of_isAttributeName (ha : isAttributeName a = true) : Trimmed a :=
  trimmed_of_forall (isBlank_of_isAttributeName ha)

theorem notMem_of_isAttributeName (ha : isAttributeName a = true) {c : Char}
    (hc : isAttributeChar c = false) : c ∉ a := by
  rw [isAttributeName, Bool.and_eq_true] at ha
  exact notMem_of_all ha.2 hc

/-- The name of an attribute without shorthands has none after blanks, either. -/
theorem expandShorthands_blank_append {w : List Char} (hw : allBlank w = true)
    (ha : isAttributeName a = true) (hfix : expandShorthands a = a) :
    expandShorthands (w ++ a) = w ++ a := by
  have hbracket : '[' ∉ a := notMem_of_isAttributeName ha (by decide)
  have hbracket' : '[' ∉ w := notMem_of_all hw (by decide)
  have hcolon : ':' ∉ w := notMem_of_all hw (by decide)
  have hclasses : expandClasses a = a := by
    have h := expandClasses_append_of_notMem hbracket []
    rwa [expandClasses_nil, List.append_nil] at h
  rw [expandShorthands, hclasses] at hfix
  rw [expandShorthands, expandClasses_append_of_notMem hbracket', hclasses,
    expandNotEmpty_append_of_notMem hcolon, hfix]

end Attribute

/-! ### Selectors -/

section Selector

variable {s : List Char}

theorem trimmed_expandShorthands (hs : Trimmed s) : Trimmed (expandShorthands s) :=
  (respelled_expandNotEmpty _).trimmed ((respelled_expandClasses s).trimmed hs)

theorem expandShorthands_ne_nil (hs : s ≠ []) : expandShorthands s ≠ [] := fun h =>
  hs ((respelled_expandClasses s).eq_nil_iff.2 ((respelled_expandNotEmpty _).eq_nil_iff.2 h))

theorem after_expandShorthands (s : List Char) :
    Depth.ground.after (expandShorthands s) = Depth.ground.after s :=
  ((respelled_expandNotEmpty _).after_eq Depth.sound_ground).trans
    ((respelled_expandClasses s).after_eq Depth.sound_ground)

theorem findMarker_expandShorthands (hs : findMarker s = none) :
    findMarker (expandShorthands s) = none :=
  (respelled_expandNotEmpty _).findMarkerFrom_eq_none Depth.sound_ground
    ((respelled_expandClasses s).findMarkerFrom_eq_none Depth.sound_ground hs)

theorem nonempty?_of_ne_nil (hs : s ≠ []) : nonempty? s = some (String.ofList s) := by
  rw [nonempty?, if_neg (by simpa using hs)]

theorem nonempty?_empty : nonempty? (trim (expandShorthands [])) = none := by
  rw [expandShorthands, expandClasses_nil, expandNotEmpty_nil]
  rfl

/-- A selector without a sign is the whole head. -/
theorem splitAttribute_selector (hs : findMarker s = none) :
    splitAttribute (expandShorthands s) = .ok (nonempty? (trim (expandShorthands s)), none) := by
  rw [splitAttribute, findMarker_expandShorthands hs]

/-- A selector, blanks and a sign are told apart from what follows: it decides, once its shorthands
are replaced, whether there is an attribute. -/
theorem splitAttribute_append_sign (hs : Depth.ground.after s = Depth.ground) {w t : List Char}
    (hw : allBlank w = true) (ht : findMarker t = none) :
    splitAttribute (expandShorthands (s ++ (w ++ '@' :: t))) =
      if isAttributeName (trim (expandShorthands t)) then
        .ok (nonempty? (trim (expandShorthands s)),
          some (String.ofList (trim (expandShorthands t))))
      else .error (String.ofList (trim (expandShorthands t))) := by
  have hground : Depth.ground.after (expandShorthands s ++ w) = Depth.ground := by
    rw [Depth.after_append, after_expandShorthands, hs]
    exact Depth.after_of_neutral Depth.sound_ground (Depth.all_isNeutral_of_all (by decide) hw)
  have hdrop : (expandShorthands s ++ w ++ '@' :: expandShorthands t).drop
      ((expandShorthands s ++ w).length + 1) = expandShorthands t := by
    rw [List.drop_length_add_append, List.drop_succ_cons, List.drop_zero]
  have hselector : trim (expandShorthands s ++ w) = trim (expandShorthands s) :=
    trim_append_blank hw _
  rw [expandShorthands_append_sign hw, ← List.append_assoc, splitAttribute,
    findMarker_append_sign hground (findMarker_expandShorthands ht)]
  simp only [hdrop, List.take_left, hselector]

/-- A selector, blanks, a sign, blanks and the name of an attribute are told apart. -/
theorem splitAttribute_sign (hs : Depth.ground.after s = Depth.ground) {w w' a : List Char}
    (hw : allBlank w = true) (hw' : allBlank w' = true) (ha : isAttributeName a = true)
    (hfix : expandShorthands a = a) :
    splitAttribute (expandShorthands (s ++ (w ++ '@' :: (w' ++ a)))) =
      .ok (nonempty? (trim (expandShorthands s)), some (String.ofList a)) := by
  have hsign : '@' ∉ w' ++ a := by
    rw [List.mem_append, not_or]
    exact ⟨notMem_of_all hw' (by decide), notMem_of_isAttributeName ha (by decide)⟩
  have hname : trim (expandShorthands (w' ++ a)) = a := by
    rw [expandShorthands_blank_append hw' ha hfix, trim_blank_append hw',
      (trimmed_of_isAttributeName ha).trim_eq]
  rw [splitAttribute_append_sign hs hw (findMarkerFrom_of_notMem hsign Depth.ground), hname,
    if_pos ha]

end Selector

/-! ### The segments of a query -/

variable {p : Spelling}

theorem Proper.guarded_head (hp : p.Proper) : Guarded p.head := by
  have hselector : Guarded (p.selector.getD []) := by
    cases h : p.selector with
    | none => trivial
    | some s => exact (hp.selector s h).2.2
  refine hselector.append ?_
  cases h : p.attributeName with
  | none => trivial
  | some a =>
    have hname : Guarded a :=
      guarded_of_notMem (notMem_of_isAttributeName (hp.attributeName a h).1 (by decide))
    have hsign : Guarded ['@'] := guarded_of_notMem (by decide)
    exact (guarded_of_allBlank hp.sign.1).append
      (hsign.append ((guarded_of_allBlank hp.sign.2).append hname))

/-- The segments of a query are its head and its calls. -/
theorem Proper.splitFilters_body (hp : p.Proper) :
    splitFilters (trim p.body) = trim p.head :: p.calls.map Call.text := by
  rw [splitFilters_trim, body, map_trim_pipePieces_chain hp.calls hp.guarded_head]

/-- The parts of the head of a query are its selector and its attribute. -/
theorem Proper.splitAttribute_head (hp : p.Proper) :
    splitAttribute (expandShorthands (trim p.head)) =
      .ok (p.meaning.selector, p.meaning.attributeName) := by
  have hselector {s : List Char} (h : p.selector = some s) :
      nonempty? (trim (expandShorthands s)) = p.meaning.selector := by
    obtain ⟨hne, htrimmed, -⟩ := hp.selector s h
    rw [(trimmed_expandShorthands htrimmed).trim_eq, nonempty?_of_ne_nil
      (expandShorthands_ne_nil hne), meaning, h, Option.map_some]
  cases hattribute : p.attributeName with
  | none =>
    cases h : p.selector with
    | none =>
      have hhead : p.head = [] := by simp [head, h, hattribute]
      rw [hhead, show trim [] = [] from rfl, splitAttribute_selector rfl, nonempty?_empty, meaning,
        h, hattribute, Option.map_none, Option.map_none]
    | some s =>
      have hhead : p.head = s := by simp [head, h, hattribute]
      rw [hhead, (hp.selector s h).2.1.trim_eq, splitAttribute_selector (hp.noSign hattribute s h),
        hselector h, meaning, hattribute, Option.map_none]
  | some a =>
    obtain ⟨hname, hfix⟩ := hp.attributeName a hattribute
    have hattribute' : p.meaning.attributeName = some (String.ofList a) := by
      rw [meaning, hattribute, Option.map_some]
    have hsign : Trimmed ('@' :: (p.sign.2 ++ a)) :=
      Trimmed.append_between (s := ['@']) (by decide) (by simp)
        (trimmed_of_isAttributeName hname) (ne_nil_of_isAttributeName hname) p.sign.2
    cases h : p.selector with
    | none =>
      have hhead : p.head = p.sign.1 ++ '@' :: (p.sign.2 ++ a) := by simp [head, h, hattribute]
      have hsplit := splitAttribute_sign (s := []) (w := []) rfl rfl hp.sign.2 hname hfix
      rw [List.nil_append, List.nil_append, nonempty?_empty] at hsplit
      rw [hhead, trim_blank_append hp.sign.1, hsign.trim_eq, hsplit, hattribute', meaning, h,
        Option.map_none]
    | some s =>
      obtain ⟨hne, htrimmed, -⟩ := hp.selector s h
      have hhead : p.head = s ++ p.sign.1 ++ '@' :: (p.sign.2 ++ a) := by
        simp [head, h, hattribute]
      have hclosed := hp.closed (by simp [hattribute]) s h
      rw [hhead, (htrimmed.append_between hne hsign (by simp) p.sign.1).trim_eq, List.append_assoc,
        splitAttribute_sign hclosed hp.sign.1 hp.sign.2 hname hfix, hselector h, hattribute']

/-! ### Reading a query -/

/-- A query is not blank. -/
theorem Proper.trim_body_ne_nil (hp : p.Proper) : trim p.body ≠ [] := by
  intro hempty
  have hsplit := hp.splitFilters_body
  rw [hempty, show splitFilters [] = [[]] from rfl] at hsplit
  obtain ⟨hhead, hcalls⟩ := List.cons.inj hsplit
  have hparts := hp.splitAttribute_head
  rw [← hhead, splitAttribute_selector rfl, nonempty?_empty] at hparts
  obtain ⟨hselector, hattribute⟩ := Prod.mk.inj (Except.ok.inj hparts)
  rcases hp.something with h | h | h
  · rw [Option.map_eq_none_iff.1 hselector.symm] at h
    cases h
  · rw [Option.map_eq_none_iff.1 hattribute.symm] at h
    cases h
  · exact h (List.map_eq_nil_iff.1 hcalls.symm)

theorem Proper.trim_enclosed_ne_nil (hp : p.Proper) : trim p.enclosed ≠ [] := by
  rw [enclosed]
  split_ifs
  · rw [(trimmed_bracketed _).trim_eq]
    simp
  · exact hp.trim_body_ne_nil

theorem Proper.readBody_body (hp : p.Proper) :
    Descriptor.readBody p.getAll (trim p.body) = .ok p.meaning := by
  rw [Descriptor.readBody_ok_iff, hp.splitFilters_body]
  exact ⟨hp.splitAttribute_head, readChain_joinWith hp.calls, rfl⟩

theorem Proper.read_enclosed (hp : p.Proper) (h : isBracketed (trim p.enclosed) = p.getAll) :
    Descriptor.read (trim p.enclosed) = .ok p.meaning := by
  have hread := hp.readBody_body
  cases hall : p.getAll with
  | false =>
    rw [hall] at h hread
    rw [Descriptor.read_of_not_bracketed h, enclosed, if_neg (by simp [hall]), hread]
  | true =>
    rw [hall] at hread
    have hinside : trim (p.inside.1 ++ p.body ++ p.inside.2) = trim p.body :=
      trim_append_blanks hp.inside.1 hp.inside.2 p.body
    rw [enclosed, if_pos hall, (trimmed_bracketed _).trim_eq, Descriptor.read_bracketed, hinside,
      if_neg (by simpa using hp.trim_body_ne_nil), hread]

theorem toList_text (p : Spelling) :
    p.text.toList = p.around.1 ++ p.enclosed ++ p.around.2 := by
  rw [text, String.toList_ofList]

/-- **A query is read as the parts that it was written from.** Take any parts that keep to what
their places allow, with any blanks, and a store that reading queries has filled in any way. The
text gives the selector with its shorthands replaced, the attribute, the calls in order with the
values of their arguments, and whether every match is asked for, without a warning, exactly if the
trimmed text stands in brackets exactly if every match is asked for, and is not too long. A longer
one is refused for its length. -/
theorem outcome_parse (p : Spelling) (hp : p.Proper) (capacity : Int) (uses : List Use)
    (ns : List Notice) :
    let s := trim p.text.toList
    let o := (parse (.text p.text)).outcomeFrom ⟨.filled capacity uses, ns⟩
    (o = (.ok p.meaning, []) ↔ isBracketed s = p.getAll ∧ s.length ≤ maxLength) ∧
      (s.length > maxLength → o = (.error (.refused (.tooLong s.length) (.text p.text)), [])) := by
  intro s o
  have hs : s = trim p.enclosed := by
    rw [show s = trim (p.text.toList) from rfl, toList_text,
      trim_append_blanks hp.around.1 hp.around.2]
  have ho : o = (Query.meaning (.text p.text), []) :=
    (yields_parse (.text p.text)).outcomeFrom (Cache.faithful_filled capacity uses)
  rw [ho]
  refine ⟨?_, fun hlong => congrArg (·, []) (meaning_text_of_tooLong hlong)⟩
  rw [Prod.mk.injEq, and_iff_left rfl, meaning_text_ok_iff]
  constructor
  · rintro ⟨-, hlong, hread⟩
    exact ⟨Descriptor.getAll_of_read hread, hlong⟩
  · rintro ⟨hbrackets, hlong⟩
    have hne : s ≠ [] := hs ▸ hp.trim_enclosed_ne_nil
    rw [hs] at hbrackets
    exact ⟨hne, hlong, (congrArg Descriptor.read hs).trans (hp.read_enclosed hbrackets)⟩

/-- A query with every part, in which a class stands in brackets and an argument in quotes. -/
theorem outcome_parse_listing :
    let p : Spelling := {
      selector := some "li[.a] b[lang|=en]".toList
      attributeName := some "data-id".toList
      calls := [⟨"replace".toList, [.bare "x".toList, .quoted '"' "y: z".toList], [' '], [' ']⟩,
        ⟨"trim".toList, [], [], ['\t']⟩]
      getAll := true
      around := ([], [' '])
      inside := ([' '], [])
      sign := ([' '], []) }
    p.text = "[ li[.a] b[lang|=en] @data-id | replace:x:\"y: z\"|\ttrim] " ∧
      (parse (.text p.text)).outcomeFrom {} =
        (.ok ⟨some "li.a b[lang|=en]", some "data-id",
          [⟨"replace", ["x", "y: z"]⟩, ⟨"trim", []⟩], true⟩, []) := by
  intro p
  have hp : p.Proper := ⟨by decide +kernel, by decide +kernel, by decide +kernel,
    by decide +kernel, by decide +kernel, by decide, by decide, by decide, by decide⟩
  have h := (outcome_parse p hp 1000 [] []).1.2 (by decide +kernel)
  have hmeaning : p.meaning = ⟨some "li.a b[lang|=en]", some "data-id",
      [⟨"replace", ["x", "y: z"]⟩, ⟨"trim", []⟩], true⟩ := by decide +kernel
  rw [hmeaning] at h
  exact ⟨by decide +kernel, h⟩

end Spelling

end Extraction.Query
