import Extraction.Proofs.Evaluation.Yield
import Extraction.Proofs.Text.Trim
import Mathlib.Tactic.SplitIfs

/-!
# Queries in brackets

Square brackets around a query ask for every match, and that is all they change: the selector, the
attribute and the filters are read from what stands inside them as they would be without them.

## Main definitions

* `Query.bracketed` : a query with brackets around it.
* `Query.unbracketed` : a query without the brackets around it.

## Main results

* `Query.meaning_bracketed_ok_iff` : the descriptor of a query with brackets around it is that of
  the query, but for every match.
* `Query.outcome_parse_bracketed` : with brackets and without them a query is read alike, also
  where it is refused.
-/

namespace Extraction.Query

open Text

/-- A query with brackets around it. -/
def bracketed (query : String) : String :=
  "[" ++ query ++ "]"

/-- What stands between the brackets of a trimmed query; all of it if it stands in none. -/
def unbracketed (s : List Char) : List Char :=
  if isBracketed s then insideBrackets s else s

theorem toList_bracketed (query : String) :
    (bracketed query).toList = '[' :: query.toList ++ [']'] := by
  simp [bracketed]

theorem trimmed_bracketed (s : List Char) : Trimmed ('[' :: s ++ [']']) :=
  trimmed_cons_append (by decide) (by decide) s

theorem trim_bracketed (query : String) :
    trim (bracketed query).toList = (bracketed query).toList := by
  rw [toList_bracketed, (trimmed_bracketed query.toList).trim_eq]

theorem length_bracketed (query : String) :
    (bracketed query).toList.length = query.length + 2 := by
  rw [toList_bracketed, List.length_append, List.length_cons, List.length_singleton,
    String.length_toList]

theorem isBracketed_bracketed (s : List Char) : isBracketed ('[' :: s ++ [']']) = true := by
  rw [isBracketed, List.getLast?_append]
  rfl

theorem exists_of_isBracketed {s : List Char} (h : isBracketed s = true) :
    ∃ m, s = '[' :: m ++ [']'] := by
  rw [isBracketed, Bool.and_eq_true, beq_iff_eq, beq_iff_eq] at h
  obtain ⟨hhead, hlast⟩ := h
  obtain ⟨m, rfl⟩ := List.getLast?_eq_some_iff.1 hlast
  cases m with
  | nil => cases hhead
  | cons c m =>
    obtain rfl := Option.some.inj hhead
    exact ⟨m, rfl⟩

theorem insideBrackets_bracketed (s : List Char) :
    insideBrackets ('[' :: s ++ [']']) = trim s := by
  rw [insideBrackets, List.cons_append, List.drop_succ_cons, List.drop_zero, List.dropLast_concat]

theorem trimmed_unbracketed {s : List Char} (hs : Trimmed s) : Trimmed (unbracketed s) := by
  unfold unbracketed
  split_ifs
  · exact trimmed_trim _
  · exact hs

namespace Descriptor

/-- The selector, the attribute and the filters of a body do not depend on whether every match is
asked for. -/
theorem readBody_ok_iff {getAll : Bool} {body : List Char} {d : Descriptor} :
    readBody getAll body = .ok d ↔
      splitAttribute (expandShorthands ((splitFilters body).headD [])) =
          .ok (d.selector, d.attributeName) ∧
        readChain (joinWith ['|'] ((splitFilters body).drop 1)) = d.filters ∧
        getAll = d.getAll := by
  obtain ⟨selector, attributeName, filters, all⟩ := d
  simp only [readBody]
  cases splitAttribute (expandShorthands ((splitFilters body).headD [])) with
  | error name => simp
  | ok head =>
    obtain ⟨selector', attributeName'⟩ := head
    simp [and_assoc]

/-- Whether every match is asked for does not decide whether a body can be read. -/
theorem readBody_eq_map (getAll : Bool) (body : List Char) :
    readBody getAll body = (readBody false body).map fun d => { d with getAll } := by
  simp only [readBody]
  cases splitAttribute (expandShorthands ((splitFilters body).headD [])) with
  | error name => rfl
  | ok head => rfl

/-- A body cannot be read only if what follows its at sign is no name of an attribute. -/
theorem exists_badAttribute_of_readBody {getAll : Bool} {body : List Char}
    {cause : Refusal} (h : readBody getAll body = .error cause) :
    ∃ name, cause = .badAttribute name := by
  simp only [readBody] at h
  cases hsplit : splitAttribute (expandShorthands ((splitFilters body).headD [])) with
  | error name =>
    rw [hsplit] at h
    exact ⟨name, (Except.error.inj h).symm⟩
  | ok head =>
    rw [hsplit] at h
    cases h

theorem read_bracketed (s : List Char) :
    read ('[' :: s ++ [']']) =
      if (trim s).isEmpty then .error .emptyBrackets else readBody true (trim s) := by
  rw [read, if_pos (isBracketed_bracketed s), insideBrackets_bracketed]

theorem read_of_not_bracketed {s : List Char} (h : isBracketed s = false) :
    read s = readBody false s := by
  rw [read, if_neg (by simp [h])]

/-- A query is read by what stands between its brackets. -/
theorem readBody_of_read {s : List Char} {d : Descriptor} (h : read s = .ok d) :
    readBody (isBracketed s) (unbracketed s) = .ok d := by
  unfold unbracketed
  cases hs : isBracketed s with
  | false =>
    rw [read_of_not_bracketed hs] at h
    exact h
  | true =>
    rw [read, if_pos hs] at h
    simp only at h
    split_ifs at h
    exact h

/-- A query that is read asks for every match exactly if it stands in brackets. -/
theorem getAll_of_read {s : List Char} {d : Descriptor} (h : read s = .ok d) :
    isBracketed s = d.getAll :=
  (readBody_ok_iff.1 (readBody_of_read h)).2.2

end Descriptor

/-- A text that is neither blank nor too long means what its trimmed text is read as. -/
theorem meaning_text {query : String} (hblank : trim query.toList ≠ [])
    (hlong : (trim query.toList).length ≤ maxLength) :
    meaning (.text query) = (Descriptor.read (trim query.toList)).mapError
      (refusal (.text query) (String.ofList (trim query.toList))) := by
  simp only [meaning, trimmedText_text hblank hlong, String.toList_ofList]

/-- A text has a descriptor if its trimmed text is not empty and not too long and can be read. -/
theorem meaning_text_ok_iff {query : String} {d : Descriptor} :
    meaning (.text query) = .ok d ↔
      trim query.toList ≠ [] ∧ (trim query.toList).length ≤ maxLength ∧
        Descriptor.read (trim query.toList) = .ok d := by
  by_cases hblank : trim query.toList = []
  · simp [meaning, trimmedText, hblank]
  · by_cases hlong : (trim query.toList).length ≤ maxLength
    · rw [meaning_text hblank hlong]
      cases h : Descriptor.read (trim query.toList) with
      | error cause => simp [Except.mapError]
      | ok d' => simp [hblank, hlong, Except.mapError]
    · simp [meaning, trimmedText, hblank, hlong, Nat.lt_of_not_le hlong]

/-- By way of a store that reading has filled, a query is read as what it means. -/
theorem outcomeFrom_parse (v : Value) (capacity : Int) (uses : List Use) (ns : List Notice) :
    (parse v).outcomeFrom ⟨.filled capacity uses, ns⟩ = (meaning v, []) :=
  (yields_parse v).outcomeFrom (Cache.faithful_filled capacity uses)

/-- What reading gives by way of a store is what the trimmed text is read as. -/
theorem read_of_outcome {query : String} {d : Descriptor} {capacity : Int} {uses : List Use}
    {ns ws : List Notice}
    (h : (parse (.text query)).outcomeFrom ⟨.filled capacity uses, ns⟩ = (.ok d, ws)) :
    Descriptor.read (trim query.toList) = .ok d := by
  rw [outcomeFrom_parse] at h
  exact (meaning_text_ok_iff.1 (Prod.mk.inj h).1).2.2

/-- A text is read by way of a store as its trimmed text is, if that is not empty and not too
long. -/
theorem outcome_of_read {query : String} {d : Descriptor} (hblank : trim query.toList ≠ [])
    (hlong : (trim query.toList).length ≤ maxLength)
    (hread : Descriptor.read (trim query.toList) = .ok d) (capacity : Int) (uses : List Use)
    (ns : List Notice) :
    (parse (.text query)).outcomeFrom ⟨.filled capacity uses, ns⟩ = (.ok d, []) := by
  rw [outcomeFrom_parse, meaning_text_ok_iff.2 ⟨hblank, hlong, hread⟩]

/-- A text that is too long has no descriptor. -/
theorem meaning_text_of_tooLong {query : String} (h : (trim query.toList).length > maxLength) :
    meaning (.text query) =
      .error (.refused (.tooLong (trim query.toList).length) (.text query)) := by
  have hne : ¬(trim query.toList).isEmpty = true := fun hempty => by
    rw [List.isEmpty_iff.1 hempty] at h
    cases h
  simp only [meaning, trimmedText, if_neg hne, if_pos h]
  rfl

/-- A query with brackets around it means the same as without them, but for every match, or both
are refused for the same attribute, each with its own trimmed text. -/
theorem meaning_bracketed_cases {query plain enclosed : String} (hne : trim query.toList ≠ [])
    (hbrackets : isBracketed (trim query.toList) = false) (hlong : query.length + 2 ≤ maxLength)
    (hplain : trim plain.toList = trim query.toList)
    (henclosed : trim enclosed.toList = (bracketed query).toList) :
    (∃ d, d.getAll = false ∧ meaning (.text plain) = .ok d ∧
        meaning (.text enclosed) = .ok { d with getAll := true }) ∨
      ∃ name,
        meaning (.text plain) =
          .error (.refused (.badAttribute name) (.text (.ofList (trim query.toList)))) ∧
        meaning (.text enclosed) =
          .error (.refused (.badAttribute name) (.text (bracketed query))) := by
  have hlong' : (trim plain.toList).length ≤ maxLength := by
    have htrim := length_trim_le query.toList
    rw [String.length_toList] at htrim
    rw [hplain]
    omega
  have hlength : (trim enclosed.toList).length ≤ maxLength := by
    rwa [henclosed, length_bracketed]
  have hne' : trim enclosed.toList ≠ [] := by
    rw [henclosed, toList_bracketed]
    simp
  rw [meaning_text (hplain ▸ hne) hlong', meaning_text hne' hlength, hplain, henclosed,
    toList_bracketed, Descriptor.read_bracketed, if_neg (by simpa using hne),
    Descriptor.read_of_not_bracketed hbrackets, Descriptor.readBody_eq_map true,
    ← toList_bracketed, String.ofList_toList]
  cases hread : Descriptor.readBody false (trim query.toList) with
  | ok d => exact .inl ⟨d, (Descriptor.readBody_ok_iff.1 hread).2.2.symm, rfl, rfl⟩
  | error cause =>
    obtain ⟨name, rfl⟩ := Descriptor.exists_badAttribute_of_readBody hread
    exact .inr ⟨name, rfl, rfl⟩

/-- Brackets around a query that has none, and with which it is not too long, ask for every match
and change nothing else of its descriptor. -/
theorem meaning_bracketed_ok_iff {query : String} (hlong : query.length + 2 ≤ maxLength)
    (hplain : isBracketed (trim query.toList) = false) {d : Descriptor} :
    meaning (.text (bracketed query)) = .ok d ↔
      d.getAll = true ∧ meaning (.text query) = .ok { d with getAll := false } := by
  by_cases hne : trim query.toList = []
  · rw [meaning_text_ok_iff, meaning_text_ok_iff, trim_bracketed, toList_bracketed,
      Descriptor.read_bracketed]
    simp [hne]
  · obtain ⟨d', hall, hd, hd'⟩ | ⟨name, hf, hf'⟩ :=
      meaning_bracketed_cases hne hplain hlong rfl (trim_bracketed query)
    · rw [hd, hd', Except.ok.injEq, Except.ok.injEq]
      constructor
      · rintro rfl
        exact ⟨rfl, by rw [← hall]⟩
      · rintro ⟨hall', rfl⟩
        rw [← hall']
    · rw [hf, hf']
      simp

theorem trim_around {before behind : String} (hbefore : allBlank before.toList = true)
    (hbehind : allBlank behind.toList = true) (query : String) :
    trim (before ++ query ++ behind).toList = trim query.toList := by
  rw [String.toList_append, String.toList_append, trim_append_blanks hbefore hbehind]

/-- **Brackets ask for every match and change nothing else.** Take any query that is not blank, has
no brackets around it and is not too long with them, any blanks around the query and around the
query in brackets, and two stores that reading queries has filled in any way. Without brackets and
with them the query is read as the same selector, attribute and filters, for the first match and
for every match, or both are refused with the same message. -/
theorem outcome_parse_bracketed (query : String) (hne : trim query.toList ≠ [])
    (hbrackets : isBracketed (trim query.toList) = false) (hlong : query.length ≤ 998)
    (before behind before' behind' : String)
    (hblank : ∀ w ∈ [before, behind, before', behind'], allBlank w.toList = true)
    (capacity capacity' : Int) (uses uses' : List Use) (ns ns' : List Notice) :
    let plain := (parse (.text (before ++ query ++ behind))).outcomeFrom
      ⟨.filled capacity uses, ns⟩
    let enclosed := (parse (.text (before' ++ bracketed query ++ behind'))).outcomeFrom
      ⟨.filled capacity' uses', ns'⟩
    (∃ d, d.getAll = false ∧ plain = (.ok d, []) ∧
        enclosed = (.ok { d with getAll := true }, [])) ∨
      ∃ f f', plain = (.error f, []) ∧ enclosed = (.error f', []) ∧
        ∀ explain, ∃ r r', f.describe explain = .ok r ∧ f'.describe explain = .ok r' ∧
          r.kind = "QueryParseError" ∧ r'.kind = "QueryParseError" ∧ r'.message = r.message := by
  intro plain enclosed
  simp only [List.forall_mem_cons] at hblank
  obtain ⟨hbefore, hbehind, hbefore', hbehind', -⟩ := hblank
  have htrim : trim (before ++ query ++ behind).toList = trim query.toList :=
    trim_around hbefore hbehind query
  have htrim' : trim (before' ++ bracketed query ++ behind').toList =
      (bracketed query).toList := by
    rw [trim_around hbefore' hbehind', trim_bracketed]
  have hplain : plain = (meaning (.text (before ++ query ++ behind)), []) :=
    (yields_parse _).outcomeFrom (Cache.faithful_filled capacity uses)
  have henclosed : enclosed = (meaning (.text (before' ++ bracketed query ++ behind')), []) :=
    (yields_parse _).outcomeFrom (Cache.faithful_filled capacity' uses')
  have hlong' : query.length + 2 ≤ maxLength := by
    rw [maxLength]
    omega
  rw [hplain, henclosed]
  obtain ⟨d, hall, hd, hd'⟩ | ⟨name, hf, hf'⟩ :=
    meaning_bracketed_cases hne hbrackets hlong' htrim htrim'
  · rw [hd, hd']
    exact .inl ⟨d, hall, rfl, rfl⟩
  · rw [hf, hf']
    exact .inr ⟨_, _, rfl, rfl, fun explain => ⟨_, _, rfl, rfl, rfl, rfl, rfl⟩⟩

/-- A query that is read, with brackets in its selector, and one that is refused, with a bracket
after its at sign. -/
theorem outcome_parse_bracketed_link :
    let outcome (text : String) := (parse (.text text)).outcomeFrom {}
    (outcome " a[href] @href | trim").1.toOption =
        some ⟨some "a[href]", some "href", [⟨"trim", []⟩], false⟩ ∧
      (outcome "[ a[href] @href | trim]\t").1.toOption =
        some ⟨some "a[href]", some "href", [⟨"trim", []⟩], true⟩ ∧
      ∃ f r, outcome " [b@c]]" = (.error f, []) ∧ f.describe id = .ok r ∧
        r.message = "Invalid attribute name 'c]' after '@'" := by
  intro outcome
  have hlink : (outcome " a[href] @href | trim").1.toOption =
      some ⟨some "a[href]", some "href", [⟨"trim", []⟩], false⟩ := by decide +kernel
  have hmessage : (match (outcome "b@c]").1 with
      | .ok _ => none
      | .error f => (f.describe id).toOption.map Report.message) =
        some "Invalid attribute name 'c]' after '@'" := by decide +kernel
  refine ⟨hlink, ?_, ?_⟩
  · obtain ⟨d, -, hplain, henclosed⟩ | ⟨f, f', hplain, -⟩ :=
      outcome_parse_bracketed " a[href] @href | trim" (by decide) (by decide) (by decide)
        "" "" "" "\t" (by decide) 1000 1000 [] [] [] []
    · obtain rfl := Option.some.inj ((congrArg (·.1.toOption) hplain).symm.trans hlink)
      exact congrArg (·.1.toOption) henclosed
    · cases (congrArg (·.1.toOption) hplain).symm.trans hlink
  · obtain ⟨d, -, hplain, -⟩ | ⟨f, f', hplain, henclosed, hreports⟩ :=
      outcome_parse_bracketed "b@c]" (by decide) (by decide) (by decide)
        "" "" " " "" (by decide) 1000 1000 [] [] [] []
    · rw [show outcome "b@c]" = (.ok d, []) from hplain] at hmessage
      cases hmessage
    · obtain ⟨r, r', hr, hr', -, -, hsame⟩ := hreports id
      rw [show outcome "b@c]" = (.error f, []) from hplain] at hmessage
      simp only [hr, Except.toOption, Option.map_some, Option.some.injEq] at hmessage
      exact ⟨f', r', henclosed, hr', hsame.trans hmessage⟩

end Extraction.Query
