import Extraction.Proofs.Query.Bracket
import Extraction.Proofs.Value.Decidable

/-!
# The query that a refusal cites

A query can be refused for five reasons. Three are seen in the query as it was given: it is not a
text, it is blank, or it is too long. The other two are seen only in its trimmed text, and only if
the store has no descriptor under that: nothing stands between the brackets, or no name of an
attribute follows the at sign. A refusal of the first kind cites the query, and one of the second
kind the trimmed text. So what a report cites is what was given, unless the query has blanks at its
ends and is refused for what it says.

## Main definitions

* `Query.Refused` : a query is refused for a reason.
* `Query.Refusal.isOfBody` : the reasons that are seen only in the trimmed text.
* `Query.cited` : the query that a refusal cites.

## Main results

* `Query.error_parse_iff` : reading fails for these reasons and no other.
* `Query.details_queryParse` : the data of a report begin with the query that it cites.
* `Query.error_parse_cited` : which query is cited, and when it is the one that was given.
-/

namespace Extraction.Query

open Text

/-- By way of a store, a query is refused for a reason. -/
inductive Refused (store : Cache) : Value → Refusal → Prop
  /-- The query is not a text. -/
  | notText {v : Value} : (∀ s, v ≠ .text s) → Refused store v (.notText v.kind)
  /-- The query is blank. -/
  | blank {s : String} : trim s.toList = [] → Refused store (.text s) .blank
  /-- The trimmed text has too many characters. -/
  | tooLong {s : String} : maxLength < (trim s.toList).length →
      Refused store (.text s) (.tooLong (trim s.toList).length)
  /-- Nothing but blanks stands between the brackets. -/
  | emptyBrackets {s : String} {w : List Char} : (trim s.toList).length ≤ maxLength →
      store.get? (trimmed s) = none → trim s.toList = '[' :: w ++ [']'] → allBlank w = true →
      Refused store (.text s) .emptyBrackets
  /-- What follows the at sign is not the name of an attribute. -/
  | badAttribute {s name : String} : (trim s.toList).length ≤ maxLength →
      store.get? (trimmed s) = none → unbracketed (trim s.toList) ≠ [] →
      splitAttribute (expandShorthands ((splitFilters (unbracketed (trim s.toList))).headD [])) =
        .error name →
      Refused store (.text s) (.badAttribute name)

/-- Whether a reason is seen only in the trimmed text of a query. -/
def Refusal.isOfBody : Refusal → Bool
  | .notText _ | .blank | .tooLong _ => false
  | .emptyBrackets | .badAttribute _ => true

/-- The query that a refusal cites. -/
def cited (v : Value) (cause : Refusal) : Value :=
  match v, cause.isOfBody with
  | .text s, true => .text (trimmed s)
  | v, _ => v

theorem cited_text_of_isOfBody {cause : Refusal} (h : cause.isOfBody = true) (s : String) :
    cited (.text s) cause = .text (trimmed s) := by
  simp only [cited, h]

theorem cited_of_not_isOfBody {cause : Refusal} (h : cause.isOfBody = false) (v : Value) :
    cited v cause = v := by
  cases v <;> simp only [cited, h]

/-! ### Refusals of reading -/

/-- A text that is not read has nothing between its brackets, or no name after its at sign. -/
theorem Descriptor.read_error_iff {s : List Char} {cause : Refusal} :
    read s = .error cause ↔
      (isBracketed s = true ∧ unbracketed s = [] ∧ cause = .emptyBrackets) ∨
        ((isBracketed s = true → unbracketed s ≠ []) ∧
          ∃ name, splitAttribute (expandShorthands ((splitFilters (unbracketed s)).headD [])) =
            .error name ∧ cause = .badAttribute name) := by
  have hbody (getAll : Bool) (body : List Char) : readBody getAll body = .error cause ↔
      ∃ name, splitAttribute (expandShorthands ((splitFilters body).headD [])) = .error name ∧
        cause = .badAttribute name := by
    simp only [readBody]
    cases splitAttribute (expandShorthands ((splitFilters body).headD [])) with
    | error name => simp [eq_comm]
    | ok head => simp
  cases hs : isBracketed s with
  | false =>
    rw [read_of_not_bracketed hs, hbody]
    simp [unbracketed, hs]
  | true =>
    have hinside : unbracketed s = insideBrackets s := if_pos hs
    rw [read, if_pos hs, hinside]
    by_cases hempty : insideBrackets s = []
    · simp [hempty, eq_comm]
    · simp [hempty, hbody]

/-- The reasons that are seen in a query as it was given keep it from having a trimmed text. -/
theorem trimmedText_error_iff (store : Cache) {v : Value} {cause : Refusal} :
    trimmedText v = .error cause ↔ Refused store v cause ∧ cause.isOfBody = false := by
  constructor
  · intro h
    unfold trimmedText at h
    split at h
    · simp only at h
      split_ifs at h with hblank hlong
      · obtain rfl := Except.error.inj h
        exact ⟨.blank (List.isEmpty_iff.1 hblank), rfl⟩
      · obtain rfl := Except.error.inj h
        exact ⟨.tooLong hlong, rfl⟩
    · rename_i htext
      obtain rfl := Except.error.inj h
      exact ⟨.notText fun s => by rintro rfl; exact htext s rfl, rfl⟩
  · rintro ⟨h, hcause⟩
    cases h with
    | notText hv =>
      cases v with
      | text s => exact absurd rfl (hv s)
      | _ => rfl
    | blank hblank => simp [trimmedText, hblank]
    | tooLong hlong =>
      have hne : ¬(trim _).isEmpty = true := fun hempty => by
        rw [List.isEmpty_iff.1 hempty] at hlong
        cases hlong
      exact (if_neg hne).trans (if_pos hlong)
    | _ => cases hcause

theorem exists_of_trimmedText {v : Value} {text : String} (h : trimmedText v = .ok text) :
    ∃ s, v = .text s ∧ trim s.toList ≠ [] ∧ (trim s.toList).length ≤ maxLength ∧
      text = trimmed s := by
  unfold trimmedText at h
  split at h
  · rename_i s
    simp only at h
    split_ifs at h with hblank hlong
    exact ⟨s, rfl, by simpa using hblank, Nat.not_lt.1 hlong, (Except.ok.inj h).symm⟩
  · cases h

/-- The other reasons are seen in the trimmed text, if the store has no descriptor under it. -/
theorem read_trimmed_error_iff {store : Cache} {s : String} {cause : Refusal}
    (hblank : trim s.toList ≠ []) (hlong : (trim s.toList).length ≤ maxLength)
    (habsent : store.get? (trimmed s) = none) :
    Descriptor.read (trim s.toList) = .error cause ↔
      Refused store (.text s) cause ∧ cause.isOfBody = true := by
  rw [Descriptor.read_error_iff]
  constructor
  · rintro (⟨hbrackets, hempty, rfl⟩ | ⟨hne, name, hname, rfl⟩)
    · obtain ⟨w, hw⟩ := exists_of_isBracketed hbrackets
      rw [unbracketed, if_pos hbrackets, hw, insideBrackets_bracketed, trim_eq_nil_iff] at hempty
      exact ⟨.emptyBrackets hlong habsent hw hempty, rfl⟩
    · refine ⟨.badAttribute hlong habsent ?_ hname, rfl⟩
      cases hbrackets : isBracketed (trim s.toList) with
      | true => exact hne hbrackets
      | false => simpa [unbracketed, hbrackets] using hblank
  · rintro ⟨h, hcause⟩
    cases h with
    | emptyBrackets _ _ hbrackets hw =>
      refine .inl ⟨hbrackets ▸ isBracketed_bracketed _, ?_, rfl⟩
      rw [hbrackets, unbracketed, if_pos (isBracketed_bracketed _), insideBrackets_bracketed,
        trim_eq_nil_iff, hw]
    | badAttribute _ _ hne hname => exact .inr ⟨fun _ => hne, _, hname, rfl⟩
    | _ => cases hcause

/-- A query that is refused for what it says is a text with a trimmed text, and the store has no
descriptor under that. -/
theorem Refused.exists_text {store : Cache} {v : Value} {cause : Refusal}
    (h : Refused store v cause) (hcause : cause.isOfBody = true) :
    ∃ s, v = .text s ∧ trim s.toList ≠ [] ∧ (trim s.toList).length ≤ maxLength ∧
      store.get? (trimmed s) = none := by
  cases h with
  | emptyBrackets hlong habsent hbrackets _ =>
    exact ⟨_, rfl, by simp [hbrackets], hlong, habsent⟩
  | badAttribute hlong habsent hne _ =>
    refine ⟨_, rfl, fun hblank => hne ?_, hlong, habsent⟩
    rw [hblank]
    rfl
  | _ => cases hcause

theorem refusal_eq (v : Value) (text : String) (cause : Refusal) :
    refusal v text cause = .refused cause (if cause.isOfBody then .text text else v) := by
  cases cause <;> rfl

/-- A query that is refused for a reason cites itself or its trimmed text, as the reason says. -/
theorem Refused.runFrom_parse {v : Value} {t : Trace} {cause : Refusal}
    (h : Refused t.cache v cause) :
    ((parse v).runFrom t).1 = .error (.refused cause (cited v cause)) := by
  cases hcause : cause.isOfBody with
  | false =>
    have htext := (trimmedText_error_iff t.cache).2 ⟨h, hcause⟩
    simp only [Query.runFrom_parse, htext, refusal_eq, hcause, cited_of_not_isOfBody hcause]
    rfl
  | true =>
    obtain ⟨s, rfl, hblank, hlong, habsent⟩ := h.exists_text hcause
    have hread := (read_trimmed_error_iff hblank hlong habsent).2 ⟨h, hcause⟩
    simp only [Query.runFrom_parse, trimmedText_text hblank hlong]
    rw [trimmed] at habsent
    simp only [habsent, String.toList_ofList, hread, refusal_eq, hcause,
      cited_text_of_isOfBody hcause]
    rfl

/-- A query fails to be read for one of the reasons. -/
theorem exists_refused_of_parse {v : Value} {t : Trace} {f : Failure}
    (h : ((parse v).runFrom t).1 = .error f) : ∃ cause, Refused t.cache v cause := by
  rw [runFrom_parse] at h
  cases htext : trimmedText v with
  | error cause => exact ⟨cause, ((trimmedText_error_iff t.cache).1 htext).1⟩
  | ok text =>
    obtain ⟨s, rfl, hblank, hlong, rfl⟩ := exists_of_trimmedText htext
    cases habsent : t.cache.get? (trimmed s) with
    | some d =>
      rw [htext] at h
      simp only [habsent] at h
      cases h
    | none =>
      cases hread : Descriptor.read (trim s.toList) with
      | error cause => exact ⟨cause, ((read_trimmed_error_iff hblank hlong habsent).1 hread).1⟩
      | ok d =>
        rw [htext] at h
        simp only [habsent] at h
        rw [trimmed, String.toList_ofList, hread] at h
        cases h

/-- Reading fails for these reasons and no other. -/
theorem error_parse_iff {v : Value} {t : Trace} {f : Failure} :
    ((parse v).runFrom t).1 = .error f ↔
      ∃ cause, Refused t.cache v cause ∧ f = .refused cause (cited v cause) := by
  constructor
  · intro h
    obtain ⟨cause, hcause⟩ := exists_refused_of_parse h
    exact ⟨cause, hcause, Except.error.inj (h.symm.trans hcause.runFrom_parse)⟩
  · rintro ⟨cause, hcause, rfl⟩
    exact hcause.runFrom_parse

/-! ### Reports of refusals -/

/-- The data of a report begin with the query that it cites, which no other entry replaces. -/
theorem details_queryParse (message : String) (query : Value) (cause : Refusal) :
    (Report.queryParse message query cause.details).details =
      (.text "query", query) :: cause.details := by
  cases cause <;> simp [Report.queryParse, Report.details, Refusal.details, Entries.union,
    Entries.insert, Value.equal]

/-- What a refusal cites is the query itself, unless that is a text with blanks at its ends which is
refused for what it says. -/
theorem Refused.cited_eq_iff {store : Cache} {v : Value} {cause : Refusal}
    (h : Refused store v cause) :
    cited v cause = v ↔ (cause.isOfBody = true → ∀ s, v = .text s → Trimmed s.toList) := by
  cases hcause : cause.isOfBody with
  | false => simp [cited_of_not_isOfBody hcause]
  | true =>
    obtain ⟨s, rfl, -⟩ := h.exists_text hcause
    have hsame : trimmed s = s ↔ Trimmed s.toList := by
      constructor
      · intro hs
        rw [← hs, trimmed, String.toList_ofList]
        exact trimmed_trim _
      · intro hs
        rw [trimmed, hs.trim_eq, String.ofList_toList]
    simp [cited_text_of_isOfBody hcause, hsame]

/-- **A refusal cites the query as it was given, or its trimmed text.** Take any value for a query
and any store. Reading the query fails exactly for one of five reasons: it is not a text, it is
blank, it is too long, nothing stands between its brackets, or no name of an attribute follows its
at sign. The report of the failure carries one query, by itself and among its data. For the first
three reasons that is the query as it was given, and for the last two its trimmed text: another
query exactly if there are blanks at the ends of the one that was given. -/
theorem error_parse_cited (v : Value) (t : Trace) :
    (∀ f, ((parse v).runFrom t).1 = .error f ↔
        ∃ cause, Refused t.cache v cause ∧ f = .refused cause (cited v cause)) ∧
      ∀ cause, Refused t.cache v cause →
        (∀ explain, ∃ r, (Failure.refused cause (cited v cause)).describe explain = .ok r ∧
            r.kind = "QueryParseError" ∧ r.subject = [("query", cited v cause)] ∧
            r.details.getText? "query" = some (cited v cause)) ∧
          (cited v cause = v ↔
            (cause.isOfBody = true → ∀ s, v = .text s → Trimmed s.toList)) := by
  refine ⟨fun f => error_parse_iff, fun cause h => ⟨fun explain => ?_, h.cited_eq_iff⟩⟩
  refine ⟨_, rfl, rfl, rfl, ?_⟩
  rw [details_queryParse]
  simp [Entries.getText?, Entries.get?, Value.equal]

/-- A query with blanks at its ends that is refused for its attribute is cited without them. -/
theorem error_parse_cited_attribute :
    let v := Value.text " a@b! "
    Refused {} v (.badAttribute "b!") ∧
      ((parse v).runFrom {}).1 = .error (.refused (.badAttribute "b!") (.text "a@b!")) ∧
      cited v (.badAttribute "b!") ≠ v := by
  intro v
  have hrefused : Refused {} v (.badAttribute "b!") := by
    refine .badAttribute ?_ rfl ?_ ?_
    all_goals decide +kernel
  have hcited : cited v (.badAttribute "b!") = .text "a@b!" := by decide +kernel
  obtain ⟨hfails, hcites⟩ := error_parse_cited v {}
  refine ⟨hrefused, (hfails _).2 ⟨_, hrefused, by rw [hcited]⟩, fun hsame => ?_⟩
  have htrimmed := (hcites _ hrefused).2.1 hsame rfl " a@b! " rfl
  rw [trimmed_iff] at htrimmed
  exact absurd htrimmed (by decide)

/-- Brackets with a blank after them are refused, and the report carries the brackets without it. -/
theorem error_parse_emptyBrackets :
    ∃ f r, ((parse (.text "[ ] ")).runFrom {}).1 = .error f ∧ f.describe id = .ok r ∧
      r.subject = [("query", .text "[ ]")] ∧
      r.details = [(.text "query", .text "[ ]"), (.text "reason", .text "empty_brackets")] ∧
      Value.text "[ ]" ≠ .text "[ ] " := by
  have hrefused : Refused {} (.text "[ ] ") .emptyBrackets :=
    .emptyBrackets (w := [' ']) (by decide +kernel) rfl (by decide +kernel) (by decide)
  have hcited : cited (.text "[ ] ") .emptyBrackets = .text "[ ]" := by decide +kernel
  refine ⟨_, _, hrefused.runFrom_parse, rfl, ?_, ?_, by simp⟩
  · rw [hcited]
    rfl
  · rw [details_queryParse, hcited]
    rfl

end Extraction.Query
