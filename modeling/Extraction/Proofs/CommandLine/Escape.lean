import Extraction.Proofs.Charset.Undecodable
import Extraction.Proofs.Evaluation.Account
import Extraction.Proofs.Evaluation.Documents
import Extraction.Proofs.Evaluation.Result
import Mathlib.Tactic.SplitIfs

/-!
# Faults that escape from pages

An extraction from a page with a rule that is data fails with a report, but for faults of four
origins: the encoding that the page declares may be of no use, the tree builder may break off, an
address may be malformed, and the search for what a selector of the rule means may break off. This
file says which faults these are, for any engines, and that there are no others.

## Main definitions

* `Extractor.Escapes` : the faults that an extraction from a page may have.

## Main results

* `Charset.kind_of_readDeclared`, `Markup.kind_of_resolveLinks` : the kinds of those faults that are
  not faults of an engine.
* `Extractor.accounted_extractPage` : an extraction from a page has no other faults, and reports
  each of its failures as often as it should.
-/

namespace Extraction

open Evaluation

/-! ### Encodings -/

theorem Charset.errors_detect (bs : List UInt8) : Notice.errors (detect bs).2 = [] := by
  simp only [detect]
  split
  · rfl
  · split_ifs
    · rfl
    · rfl
    · rfl

/-- A page cannot be read for an encoding that is of no use, that cannot be looked up, or that it
does not keep to. -/
theorem Charset.kind_of_readDeclared {bs : List UInt8} {f : Fault}
    (h : readDeclared bs = .error f) : f.kind ∈ [.lookup, .encoding, .decoding, .value] :=
  (readDeclared_error_iff.1 h).kind_mem

/-! ### Links -/

section Links

variable {base : List Char} {f : Fault}

theorem Url.kind_of_checkHost {host : List Char} (h : checkHost host = .error f) :
    f.kind = .value := by
  unfold checkHost at h
  simp only [bind, Except.bind, throw, throwThe, MonadExceptOf.throw, pure, Except.pure] at h
  split_ifs at h <;> (cases h; rfl)

theorem Url.kind_of_read {scheme s : List Char} (h : read scheme s = .error f) :
    f.kind = .value := by
  unfold read at h
  rcases Result.bind_eq_error_iff.1 h with h | ⟨_, -, h⟩
  · exact kind_of_checkHost h
  · cases h

theorem Url.kind_of_join {s : List Char} (h : join base s = .error f) : f.kind = .value := by
  unfold join at h
  split_ifs at h
  rcases Result.bind_eq_error_iff.1 h with h | ⟨_, -, h⟩
  · exact kind_of_read h
  · rcases Result.bind_eq_error_iff.1 h with h | ⟨_, -, h⟩
    · exact kind_of_read h
    · split_ifs at h <;> cases h

namespace Markup

theorem kind_of_resolveAttributes {name : String} {as : List Attribute}
    (h : resolveAttributes base name as = .error f) : f.kind = .value := by
  induction as with
  | nil => cases h
  | cons a as ih =>
    rcases Result.bind_eq_error_iff.1 h with h | ⟨⟨more, n⟩, -, h⟩
    · exact ih h
    · simp only at h
      split_ifs at h
      · rcases Result.bind_eq_error_iff.1 h with h | ⟨_, -, h⟩
        · exact Url.kind_of_join h
        · cases h
      · cases h

theorem kind_of_resolveLink {kind name : String} {t : Tag}
    (h : t.resolveLink base kind name = .error f) : f.kind = .value := by
  unfold Tag.resolveLink at h
  split_ifs at h
  exact kind_of_resolveAttributes (Result.map_eq_error_iff.1 h)

mutual

theorem kind_of_resolveNode {kind name : String} {n : Node}
    (h : n.resolveLinks base kind name = .error f) : f.kind = .value := by
  cases n with
  | text k s => cases h
  | element t children =>
    rcases Result.bind_eq_error_iff.1 h with h | ⟨_, -, h⟩
    · exact kind_of_resolveLink h
    · rcases Result.bind_eq_error_iff.1 h with h | ⟨_, -, h⟩
      · exact kind_of_resolveNodes h
      · cases h

theorem kind_of_resolveNodes {kind name : String} {ns : List Node}
    (h : resolveNodeLinks base kind name ns = .error f) : f.kind = .value := by
  cases ns with
  | nil => cases h
  | cons n ns =>
    rcases Result.bind_eq_error_iff.1 h with h | ⟨_, -, h⟩
    · exact kind_of_resolveNode h
    · rcases Result.bind_eq_error_iff.1 h with h | ⟨_, -, h⟩
      · exact kind_of_resolveNodes h
      · cases h

end

theorem kind_of_resolveKinds {kinds : List (String × String)} {ns : List Node}
    (h : resolveKinds base kinds ns = .error f) : f.kind = .value := by
  induction kinds generalizing ns with
  | nil => cases h
  | cons k kinds ih =>
    rcases Result.bind_eq_error_iff.1 h with h | ⟨⟨ns', n⟩, -, h⟩
    · exact kind_of_resolveNodes h
    · rcases Result.bind_eq_error_iff.1 h with h | ⟨_, -, h⟩
      · exact ih h
      · cases h

/-- Links cannot be resolved only if an address is malformed. -/
theorem kind_of_resolveLinks {d : Document} (h : d.resolveLinks base = .error f) :
    f.kind = .value := by
  rcases Result.bind_eq_error_iff.1 h with h | ⟨_, -, h⟩
  · exact kind_of_resolveKinds h
  · cases h

end Markup

end Links

namespace Extractor

/-! ### Reading a page -/

section Page

variable {bs : List UInt8} {name : String} {text : List Char} {f : Fault}

/-- A page is read in the encoding that it declares. -/
theorem yields_readPage_of_ok (h : Charset.readDeclared bs = .ok text) :
    (readPage name bs).Yields (.ok (String.ofList text))
      (Notice.warnings (Charset.detect bs).2) := by
  obtain ⟨charset, hfound, hread⟩ := Result.bind_eq_ok_iff.1 h
  simp only [readPage, hfound, hread]
  rw [← List.append_nil (Notice.warnings _)]
  exact (yields_note _).bind ((yields_note _).bind (yields_pure _))

/-- A page cannot be read in the encoding that it declares. -/
theorem yields_readPage_of_error (h : Charset.readDeclared bs = .error f) :
    (readPage name bs).Yields (.error (.fault f)) (Notice.warnings (Charset.detect bs).2) := by
  rw [← List.append_nil (Notice.warnings _)]
  rcases Result.bind_eq_error_iff.1 h with hfound | ⟨charset, hfound, hread⟩
  · simp only [readPage, hfound]
    exact (yields_note _).bind (yields_throw _)
  · simp only [readPage, hfound, hread]
    exact (yields_note _).bind (yields_throw _)

theorem readDeclared_of_yields_readPage {read : String} {ws : List Notice}
    (h : (readPage name bs).Yields (.ok read) ws) :
    Charset.readDeclared bs = .ok read.toList := by
  cases hread : Charset.readDeclared bs with
  | ok text =>
    have hresult := ((yields_readPage_of_ok hread).unique h).1
    rw [← Except.ok.inj hresult, String.toList_ofList]
  | error f =>
    have hresult := ((yields_readPage_of_error hread).unique h).1
    cases hresult

end Page

/-! ### What may escape -/

/-- The faults that an extraction with a rule may have, from a page of the given bytes. -/
inductive Escapes [Engines] (o : Options) (rule : Value) (bs : List UInt8) : Fault → Prop
  /-- The page cannot be read in the encoding that it declares: the encoding is of no use, its name
  cannot be looked up, or the page does not keep to it. -/
  | encoding {f : Fault} :
    Charset.readDeclared bs = .error f → f.kind ∈ [.lookup, .encoding, .decoding, .value] →
    Escapes o rule bs f
  /-- The tree builder breaks off at the text of the page. -/
  | build {text : List Char} {b : Markup.Builder} {f : Fault} :
    Charset.readDeclared bs = .ok text → Markup.Builder.ofName? o.builder = some b →
    Engines.build b text = .error f → Escapes o rule bs f
  /-- A link of the page cannot be resolved against the address of the options: one of the two is
  malformed. -/
  | link {text : List Char} {b : Markup.Builder} {d : Markup.Document} {base : String} {f : Fault} :
    Charset.readDeclared bs = .ok text → Markup.Builder.ofName? o.builder = some b →
    Engines.build b text = .ok d → o.base = some base → o.keepsLinks = false →
    d.resolveLinks base.toList = .error f → f.kind = .value → Escapes o rule bs f
  /-- The search for what the selector of a query means breaks off. The query is a part of the
  rule. -/
  | selection {query selector : String} {d : Query.Descriptor} {p : Markup.Place} {f : Fault} :
    .text query ∈ Rule.parts rule → Query.meaning (.text query) = .ok d →
    d.selector = some selector → Engines.select selector.toList p = .error (.fault f) →
    Escapes o rule bs f

variable [Engines] {o : Options} {rule : Value} {bs : List UInt8}

/-- A failure that is a fault is one of those that may escape. -/
def Contained (o : Options) (rule : Value) (bs : List UInt8) (failure : Failure) : Prop :=
  ∀ f, failure = .fault f → Escapes o rule bs f

theorem contained_of_isOwn {failure : Failure} (h : failure.isOwn = true) :
    Contained o rule bs failure := by
  rintro f rfl
  cases h

/-! ### Extracting from a page -/

theorem accounted_readPage (name : String) :
    (readPage name bs).Accounted (Contained o rule bs) := by
  cases hread : Charset.readDeclared bs with
  | ok text =>
    refine ⟨_, _, yields_readPage_of_ok hread, ?_⟩
    rw [Notice.errors_warnings, Charset.errors_detect]
  | error f =>
    refine ⟨_, _, yields_readPage_of_error hread, ?_⟩
    rw [Notice.errors_warnings, Charset.errors_detect]
    refine ⟨?_, rfl⟩
    rintro _ ⟨⟩
    exact .encoding hread (Charset.kind_of_readDeclared hread)

theorem accounted_withLinks {s : Markup.Source} {d : Markup.Document}
    (h : ∀ base f, s.base = some base → s.keepsLinks = false →
      d.resolveLinks base.toList = .error f → Escapes o rule bs f) :
    (s.withLinks d).Accounted (Contained o rule bs) := by
  unfold Markup.Source.withLinks
  split
  · rename_i base hbase
    split_ifs with hkept
    · exact accounted_pure _
    · rw [Bool.or_eq_true, not_or] at hkept
      split
      · exact (accounted_note rfl).bind fun _ _ _ => accounted_pure _
      · rename_i f hf
        refine accounted_throw ?_ rfl
        rintro _ ⟨⟩
        exact h base f hbase (by simpa using hkept.2) hf
  · exact accounted_pure _

variable (x : Extractor)

theorem accounted_load {name text : String} {ws : List Notice}
    (htext : (readPage name bs).Yields (.ok text) ws) :
    (x.load (.text text) none).Accounted (Contained x.options rule bs) := by
  have hread := readDeclared_of_yields_readPage htext
  simp only [load, source, Markup.Source.load, Markup.Source.builderOf, Markup.Source.documentOf]
  cases hb : Markup.Builder.ofName? x.options.builder with
  | none => exact accounted_throw (contained_of_isOwn rfl) rfl
  | some b =>
    simp only [pure_bind]
    cases hd : Engines.build b text.toList with
    | error f =>
      refine accounted_throw ?_ rfl
      rintro _ ⟨⟩
      exact .build hread hb hd
    | ok d =>
      refine (accounted_withLinks fun base f hbase hkeeps hf => ?_).bind fun _ _ _ =>
        accounted_pure _
      exact .link hread hb hd hbase hkeeps hf (Markup.kind_of_resolveLinks hf)

theorem setting_of_isData (hrule : Rule.IsData rule) :
    Evaluator.Setting (σ := Markup.Place) (fun _ => True) (· ∈ Rule.parts rule)
      (Contained o rule bs) where
  own _ hf := contained_of_isOwn hf
  data := hrule
  select {query d s} hquery hd _ := by
    cases hselect : (Scope.select s d.selector : Except Selector.Problem (List Markup.Place)) with
    | ok nodes => exact fun _ _ => trivial
    | error problem =>
      cases hselector : d.selector with
      | none =>
        rw [hselector] at hselect
        cases hselect
      | some selector =>
        rw [hselector] at hselect
        cases problem with
        | malformed reason =>
          rintro _ ⟨⟩
        | fault f =>
          rintro _ ⟨⟩
          exact .selection hquery hd hselector hselect

/-- An extraction from a page has no faults but those that may escape from it, and reports each of
its failures as often as it should. -/
theorem accounted_extractPage (name : String) (bs : List UInt8) (hrule : Rule.IsData rule) :
    (x.extractPage name bs rule none []).Accounted (Contained x.options rule bs) :=
  (accounted_readPage name).bind fun _ _ htext => (accounted_load x htext).bind fun _ _ _ =>
    (setting_of_isData hrule).accounted_evaluate (x.evaluator []) (fun _ hv => hv) trivial

end Extractor

end Extraction
