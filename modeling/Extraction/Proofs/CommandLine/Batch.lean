import Extraction.CommandLine.Batch
import Extraction.Proofs.CommandLine.Escape
import Extraction.Proofs.Value.Writable
import Mathlib.Data.List.Forall2

/-!
# Entries of a batch

A run has one entry for every page of the command line, in order, and what an entry tells is a
matter of its page alone: why the page cannot be read, the value of the rule in it, or the report of
a failure. The store of descriptors, which goes on from page to page, makes no difference. Whatever
engines read the pages, the run does not finish only where a page sinks it, or where the results
cannot be delivered.

## Main definitions

* `CommandLine.Entry.Tells` : what the entry of a page tells.
* `CommandLine.Sinks` : how a page may end the whole run.

## Main results

* `CommandLine.runPages_ok_iff` : the entries of several pages.
* `CommandLine.run_ok_iff_or_escapes` : when a run finishes, and why if it does not.
-/

namespace Extraction

open Evaluation

theorem Failure.eq_fault_of_describe {explain : String → String}
    {failure : Failure} {f : Fault} (h : failure.describe explain = .error f) :
    failure = .fault f := by
  cases failure <;> cases h
  rfl

namespace CommandLine

theorem Entry.writeFault?_toValue (e : Entry) :
    e.toValue.writeFault? =
      match e.outcome with
      | .value v => v.writeFault?
      | .failed _ | .unreadable _ => none := by
  obtain ⟨file, outcome⟩ := e
  cases outcome with
  | value v => simp [toValue, Value.writeFault?, Value.entriesWriteFault?]
  | unreadable t => rfl
  | failed r =>
    have hdetails : Value.entriesWriteFault? r.printableDetails = none := by
      rw [Value.entriesWriteFault?_eq_findSome?, List.findSome?_eq_none_iff,
        Report.printableDetails, List.forall_mem_map]
      exact fun e _ => e.2.writeFault?_printable
    simp [toValue, Value.writeFault?, Value.entriesWriteFault?, hdetails]

/-- The results can be written if every value among them can be. -/
theorem Outcome.writeFault?_resultsOf_eq_none_iff {entries : List Entry} :
    (resultsOf entries).writeFault? = none ↔
      ∀ e ∈ entries, ∀ v, e.outcome = .value v → v.writeFault? = none := by
  rw [resultsOf, Value.writeFault?, Value.itemsWriteFault?_eq_findSome?,
    List.findSome?_eq_none_iff, List.forall_mem_map]
  refine forall₂_congr fun e _ => ?_
  rw [Entry.writeFault?_toValue]
  cases e.outcome <;> simp

/-! ### One page -/

section Pages

variable [Engines]

/-- What the entry of a page tells, whatever reading queries has put into the store before. -/
inductive Entry.Tells (w : Surroundings) (x : Extractor) (rule : Value) (file : String) :
    Entry → Prop
  /-- The page cannot be read. -/
  | unreadable {trouble : Path.Trouble} :
    w.readFile file = .ok (.error trouble) →
    Tells w x rule file ⟨(Path.ofText file).name, .unreadable trouble⟩
  /-- The value of the rule in the page. -/
  | value {bytes : List UInt8} {v : Value} {ws : List Notice} :
    w.readFile file = .ok (.ok bytes) →
    (x.extractPage (Path.ofText file).name bytes rule none []).Yields (.ok v) ws →
    Tells w x rule file ⟨(Path.ofText file).name, .value v⟩
  /-- The report of a failure. -/
  | failed {bytes : List UInt8} {f : Failure} {ws : List Notice} {r : Report} :
    w.readFile file = .ok (.ok bytes) →
    (x.extractPage (Path.ofText file).name bytes rule none []).Yields (.error f) ws →
    f.describe w.explain = .ok r →
    Tells w x rule file ⟨(Path.ofText file).name, .failed r⟩

/-- How a page may end the whole run. -/
inductive Sinks (w : Surroundings) (x : Extractor) (rule : Value) (file : String) : Fault → Prop
  /-- The word for the page is no path. -/
  | name : '\x00' ∈ file.toList → Sinks w x rule file .nullInPath
  /-- A fault escapes from the page. -/
  | page {bytes : List UInt8} {f : Fault} :
    w.readFile file = .ok (.ok bytes) → Extractor.Escapes x.options rule bytes f →
    Sinks w x rule file f
  /-- The value of the page has a moment in it whose zone is too far from universal time to be
  written. -/
  | value {e : Entry} {v : Value} :
    e.Tells w x rule file → e.outcome = .value v → v.writeFault? = some .offsetTooLarge →
    Sinks w x rule file .offsetTooLarge

variable {w : Surroundings} {x : Extractor} {rule : Value} {t : Trace} {file : String}

/-- What comes of a page that can be read, by what the extraction from it yields. -/
theorem runPage_of_read {bytes : List UInt8} (hread : w.readFile file = .ok (.ok bytes))
    {r : Except Failure Value} {ws : List Notice}
    (hy : (x.extractPage (Path.ofText file).name bytes rule none []).Yields r ws)
    (ht : t.cache.Faithful) :
    let after := ((x.extractPage (Path.ofText file).name bytes rule none []).runFrom t).2
    runPage w x rule t file =
      match r with
      | .ok v => .ok (⟨(Path.ofText file).name, .value v⟩, after)
      | .error failure =>
        match failure.describe w.explain with
        | .ok report => .ok (⟨(Path.ofText file).name, .failed report⟩, after)
        | .error f => .error (.fault f) := by
  intro after
  have hresult := hy.result ht
  simp only [runPage, hread]
  rw [show (x.extractPage (Path.ofText file).name bytes rule none []).runFrom t = (r, after) from
    Prod.ext hresult rfl]
  cases r <;> rfl

/-- The entry of a page tells of it, and the store is as good as before. -/
theorem tells_of_runPage (ht : t.cache.Faithful) {e : Entry} {after : Trace}
    (h : runPage w x rule t file = .ok (e, after)) :
    e.Tells w x rule file ∧ after.cache.Faithful := by
  rcases hread : w.readFile file with f | trouble | bytes
  · simp only [runPage, hread] at h
    cases h
  · simp only [runPage, hread, Except.ok.injEq, Prod.mk.injEq] at h
    obtain ⟨rfl, rfl⟩ := h
    exact ⟨.unreadable hread, ht⟩
  · obtain ⟨r, ws, hy⟩ := x.settled_extractPage (Path.ofText file).name bytes rule none []
    rw [runPage_of_read hread hy ht] at h
    cases r with
    | ok v =>
      obtain ⟨rfl, rfl⟩ := Prod.mk.inj (Except.ok.inj h)
      exact ⟨.value hread hy, hy.faithful ht⟩
    | error failure =>
      cases hreport : failure.describe w.explain with
      | ok report =>
        simp only [hreport] at h
        obtain ⟨rfl, rfl⟩ := Prod.mk.inj (Except.ok.inj h)
        exact ⟨.failed hread hy hreport, hy.faithful ht⟩
      | error f =>
        simp only [hreport] at h
        cases h

/-- A page of which an entry can tell has that entry. -/
theorem Entry.Tells.runPage {e : Entry} (h : e.Tells w x rule file) (ht : t.cache.Faithful) :
    ∃ after, runPage w x rule t file = .ok (e, after) ∧ after.cache.Faithful := by
  cases h with
  | unreadable hread =>
    refine ⟨t, ?_, ht⟩
    simp only [CommandLine.runPage, hread]
  | value hread hy => exact ⟨_, runPage_of_read hread hy ht, hy.faithful ht⟩
  | failed hread hy hreport =>
    refine ⟨_, ?_, hy.faithful ht⟩
    rw [runPage_of_read hread hy ht]
    simp only [hreport]

omit [Engines] in
theorem Surroundings.readFile_error_iff {f : Fault} :
    w.readFile file = .error f ↔ '\x00' ∈ file.toList ∧ f = .nullInPath := by
  rw [readFile]
  split_ifs with hnull
  · rw [and_iff_right (List.contains_iff_mem.1 hnull), Except.error.injEq, eq_comm]
  · exact iff_of_false (by simp) fun h => hnull (List.contains_iff_mem.2 h.1)

/-- A page without an entry ends the whole run. -/
theorem sinks_of_runPage (hrule : Rule.IsData rule) (ht : t.cache.Faithful) {abort : Abort}
    (h : runPage w x rule t file = .error abort) :
    ∃ f, abort = .fault f ∧ Sinks w x rule file f := by
  rcases hread : w.readFile file with f | trouble | bytes
  · obtain ⟨hnull, rfl⟩ := Surroundings.readFile_error_iff.1 hread
    simp only [runPage, hread] at h
    exact ⟨_, (Except.error.inj h).symm, .name hnull⟩
  · simp only [runPage, hread] at h
    cases h
  · obtain ⟨r, ws, hy, hr⟩ := x.accounted_extractPage (Path.ofText file).name bytes hrule
    rw [runPage_of_read hread hy ht] at h
    cases r with
    | ok v => cases h
    | error failure =>
      cases hreport : failure.describe w.explain with
      | ok report =>
        simp only [hreport] at h
        cases h
      | error f =>
        simp only [hreport] at h
        exact ⟨f, (Except.error.inj h).symm,
          .page hread (hr.1 f (Failure.eq_fault_of_describe hreport))⟩

/-! ### Several pages -/

/-- The entries of several pages tell of them, in order. -/
theorem runPages_ok_iff (ht : t.cache.Faithful) {files : List String} {entries : List Entry} :
    runPages w x rule t files = .ok entries ↔
      List.Forall₂ (fun file e => Entry.Tells w x rule file e) files entries := by
  induction files generalizing t entries with
  | nil => simp [runPages, eq_comm]
  | cons file files ih =>
    rw [runPages, Result.bind_eq_ok_iff, List.forall₂_cons_left_iff]
    constructor
    · rintro ⟨⟨e, after⟩, hpage, h⟩
      obtain ⟨he, hafter⟩ := tells_of_runPage ht hpage
      obtain ⟨es, hes, h⟩ := Result.bind_eq_ok_iff.1 h
      exact ⟨e, es, he, (ih hafter).1 hes, (Except.ok.inj h).symm⟩
    · rintro ⟨e, es, he, hes, rfl⟩
      obtain ⟨after, hpage, hafter⟩ := he.runPage ht
      exact ⟨(e, after), hpage, Result.bind_eq_ok_iff.2 ⟨es, (ih hafter).2 hes, rfl⟩⟩

/-- Every entry tells of one of the pages. -/
theorem exists_tells_of_mem {files : List String} {entries : List Entry}
    (h : List.Forall₂ (fun file e => Entry.Tells w x rule file e) files entries) {e : Entry}
    (he : e ∈ entries) : ∃ file ∈ files, e.Tells w x rule file := by
  induction h with
  | nil => cases he
  | cons hhead _ ih =>
    rcases List.mem_cons.1 he with rfl | he
    · exact ⟨_, List.mem_cons_self, hhead⟩
    · obtain ⟨file, hfile, htells⟩ := ih he
      exact ⟨file, List.mem_cons_of_mem _ hfile, htells⟩

/-- If several pages have no entries, one of them ends the whole run. -/
theorem sinks_of_runPages (hrule : Rule.IsData rule) (ht : t.cache.Faithful)
    {files : List String} {abort : Abort} (h : runPages w x rule t files = .error abort) :
    ∃ f, abort = .fault f ∧ ∃ file ∈ files, Sinks w x rule file f := by
  induction files generalizing t with
  | nil => cases h
  | cons file files ih =>
    rw [runPages] at h
    rcases Result.bind_eq_error_iff.1 h with h | ⟨⟨e, after⟩, hpage, h⟩
    · obtain ⟨f, habort, hsinks⟩ := sinks_of_runPage hrule ht h
      exact ⟨f, habort, file, List.mem_cons_self, hsinks⟩
    · rcases Result.bind_eq_error_iff.1 h with h | ⟨es, -, h⟩
      · obtain ⟨f, habort, file', hfile', hsinks⟩ := ih (tells_of_runPage ht hpage).2 h
        exact ⟨f, habort, file', List.mem_cons_of_mem file hfile', hsinks⟩
      · cases h

/-! ### A run -/

section Run

/-- What a run comes to is decided by its pages and by whether its results can be delivered, if its
words, its rule and its options hold. -/
theorem run_eq {words : List String} {a : Arguments} {text : List Char} {options : Options}
    (hwords : Arguments.read words = .ok a) (htext : ruleText w a.rule = .ok text)
    (hrule : Json.read text = .ok rule) (hoptions : optionsOf w a = .ok options) :
    let output := a.output.filter fun path => !path.isEmpty
    run w words =
      runPages w { options, call := noFunctions } rule
          { cache := .empty options.cacheSize } a.files >>= fun entries =>
        (Outcome.resultsOf entries).writeFault?.elim
          (w.deliver output (Outcome.results entries) >>= fun _ => .ok (.finished entries output))
          fun f => .error (.fault f) := by
  simp only [run, hwords, runWith, htext, hrule, hoptions, Result.ok_bind]
  congr 1
  funext entries
  cases (Outcome.resultsOf entries).writeFault? <;> rfl

omit [Engines] in
/-- Results that cannot be written have a value among them that cannot be. -/
theorem exists_of_writeFault?_resultsOf {entries : List Entry} {f : Fault}
    (h : (Outcome.resultsOf entries).writeFault? = some f) :
    f = .offsetTooLarge ∧ ∃ e ∈ entries, ∃ v, e.outcome = .value v ∧ v.writeFault? = some f := by
  refine ⟨Value.eq_of_writeFault? h, ?_⟩
  rw [Outcome.resultsOf, Value.writeFault?, Value.itemsWriteFault?_eq_findSome?] at h
  obtain ⟨v, hv, hf⟩ := List.exists_of_findSome?_eq_some h
  obtain ⟨e, he, rfl⟩ := List.mem_map.1 hv
  rw [Entry.writeFault?_toValue] at hf
  cases houtcome : e.outcome with
  | value v =>
    rw [houtcome] at hf
    exact ⟨e, he, v, houtcome, hf⟩
  | failed r =>
    rw [houtcome] at hf
    cases hf
  | unreadable t =>
    rw [houtcome] at hf
    cases hf

/-- A run finishes if every page has an entry, all results can be written, and they can be
delivered. -/
theorem run_ok_iff {words : List String} {a : Arguments} {text : List Char} {options : Options}
    (hwords : Arguments.read words = .ok a) (htext : ruleText w a.rule = .ok text)
    (hrule : Json.read text = .ok rule) (hoptions : optionsOf w a = .ok options)
    {outcome : Outcome} :
    let output := a.output.filter fun path => !path.isEmpty
    run w words = .ok outcome ↔ ∃ entries, outcome = .finished entries output ∧
      (runPages w { options, call := noFunctions } rule { cache := .empty options.cacheSize }
          a.files = .ok entries ∧ (Outcome.resultsOf entries).writeFault? = none) ∧
        w.deliver output (Outcome.results entries) = .ok () := by
  intro output
  rw [run_eq hwords htext hrule hoptions, Result.bind_eq_ok_iff]
  refine exists_congr fun entries => ?_
  cases (Outcome.resultsOf entries).writeFault? with
  | none =>
    rw [and_iff_left rfl, Option.elim_none, Result.bind_eq_ok_iff]
    constructor
    · rintro ⟨hpages, ⟨⟩, hdeliver, h⟩
      exact ⟨(Except.ok.inj h).symm, hpages, hdeliver⟩
    · rintro ⟨rfl, hpages, hdeliver⟩
      exact ⟨hpages, (), hdeliver, rfl⟩
  | some f => simp

/-- **A run finishes unless a page sinks it.** Take any engines, any words that name a rule and
pages, a rule that is well-formed JSON, and options that hold; the pages may have any bytes, or be
missing. The run finishes exactly if every page has an entry that tells of it, whether a value, a
report or the reason why it cannot be read, every value among them can be written, and the results
can be delivered. It then has these entries in the order of the pages, and its exit code is zero or
one. If it does not finish, its results cannot be delivered, or a page has sunk it: the word for the
page is no path; a fault has escaped from the page, since it cannot be read in the encoding that it
declares, a link in it cannot be resolved, or the tree builder or the search for a selector of the
rule has broken off; or the value of the page has a moment in it whose zone is too far from
universal time to be written. -/
theorem run_ok_iff_or_escapes (w : Surroundings) (words : List String) (a : Arguments)
    (text : List Char) (rule : Value) (options : Options)
    (hwords : Arguments.read words = .ok a) (htext : ruleText w a.rule = .ok text)
    (hrule : Json.read text = .ok rule) (hoptions : optionsOf w a = .ok options) :
    let x : Extractor := { options, call := noFunctions }
    let output := a.output.filter fun path => !path.isEmpty
    let Told (entries : List Entry) : Prop :=
      List.Forall₂ (fun file e => Entry.Tells w x rule file e) a.files entries ∧
        ∀ e ∈ entries, ∀ v, e.outcome = .value v → v.writeFault? = none
    (∀ outcome, run w words = .ok outcome ↔ ∃ entries, outcome = .finished entries output ∧
        Told entries ∧ w.deliver output (Outcome.results entries) = .ok ()) ∧
      (∀ outcome, run w words = .ok outcome → outcome.exitCode = 0 ∨ outcome.exitCode = 1) ∧
      ∀ abort, run w words = .error abort →
        (∃ f, abort = .fault f ∧ ∃ file ∈ a.files, Sinks w x rule file f) ∨
          ∃ entries, Told entries ∧ w.deliver output (Outcome.results entries) = .error abort := by
  intro x output Told
  have hdata : Rule.IsData rule := Rule.isData_of_read hrule
  have hempty : (Query.Cache.empty options.cacheSize).Faithful :=
    Query.Cache.faithful_empty _
  have htold (entries : List Entry) :
      runPages w x rule { cache := .empty options.cacheSize } a.files = .ok entries ∧
        (Outcome.resultsOf entries).writeFault? = none ↔ Told entries := by
    rw [runPages_ok_iff hempty, Outcome.writeFault?_resultsOf_eq_none_iff]
  have hfinished (outcome : Outcome) : run w words = .ok outcome ↔ ∃ entries,
      outcome = .finished entries output ∧ Told entries ∧
        w.deliver output (Outcome.results entries) = .ok () := by
    refine (run_ok_iff hwords htext hrule hoptions).trans (exists_congr fun entries => ?_)
    exact and_congr_right' (and_congr_left' (htold entries))
  refine ⟨hfinished, fun outcome h => ?exit, fun abort h => ?abort⟩
  case exit =>
    obtain ⟨entries, rfl, -⟩ := (hfinished outcome).1 h
    rw [Outcome.exitCode]
    split
    · exact .inl rfl
    · exact .inr rfl
  case abort =>
    rw [run_eq hwords htext hrule hoptions] at h
    rcases Result.bind_eq_error_iff.1 h with h | ⟨entries, hentries, h⟩
    · exact .inl (sinks_of_runPages hdata hempty h)
    · cases hwrite : (Outcome.resultsOf entries).writeFault? with
      | none =>
        rw [hwrite] at h
        rcases Result.bind_eq_error_iff.1 h with h | ⟨_, _, h⟩
        · exact .inr ⟨entries, (htold entries).1 ⟨hentries, hwrite⟩, h⟩
        · cases h
      | some f =>
        rw [hwrite] at h
        obtain ⟨rfl, e, he, v, hv, hf⟩ := exists_of_writeFault?_resultsOf hwrite
        obtain ⟨file, hfile, htells⟩ :=
          exists_tells_of_mem ((runPages_ok_iff hempty).1 hentries) he
        exact .inl ⟨_, (Except.error.inj h).symm, file, hfile, .value htells hv hf⟩

end Run

end Pages

/-- The bytes of a text of ASCII. -/
def asciiBytes (s : String) : List UInt8 :=
  s.toList.map fun c => UInt8.ofNat c.toNat

/-- A page that is read, though no tree builder has the name that is given, and one that is
missing. -/
theorem run_ok_iff_or_escapes_missing :
    let bytes := asciiBytes "<meta charset=big5>"
    let w : Surroundings :=
      { environment := [],
        read := fun p => if p.name = "page.html" then .ok bytes else .error ⟨.missing, p⟩ }
    let misuse : Misuse := .treeBuilder (Value.text "nope").quoted Markup.Builder.names
    run w ["\"b\"", "page.html", "missing.html", "--parser", "nope"] =
      .ok (.finished [
        ⟨"page.html", .failed (.validation misuse.message (.text "parser") (.text "nope") [])⟩,
        ⟨"missing.html", .unreadable ⟨.missing, .ofText "missing.html"⟩⟩] none) := by
  intro bytes w misuse
  let x : Extractor := { options := { builder := "nope" }, call := noFunctions }
  have hname : (Path.ofText "page.html").name = "page.html" := by decide +kernel
  have hname' : (Path.ofText "missing.html").name = "missing.html" := by decide +kernel
  have htext : ruleText w "\"b\"" = .ok "\"b\"".toList := by
    simp only [ruleText]
    rw [if_neg (by decide +kernel)]
    rfl
  obtain ⟨hfinished, -⟩ := run_ok_iff_or_escapes w
    ["\"b\"", "page.html", "missing.html", "--parser", "nope"]
    { rule := "\"b\"", files := ["page.html", "missing.html"], builder := some "nope" }
    "\"b\"".toList (.text "b") { builder := "nope" } (by decide +kernel) htext rfl rfl
  refine (hfinished _).2 ⟨_, rfl, ⟨.cons ?page (.cons ?missing .nil), by simp⟩, rfl⟩
  case page =>
    have hbytes : w.readFile "page.html" = .ok (.ok bytes) := congrArg Except.ok (if_pos hname)
    have hread : Charset.readDeclared bytes = .ok "<meta charset=big5>".toList :=
      Result.toOption_eq_some_iff.1 (by decide +kernel)
    have hy : (x.extractPage (Path.ofText "page.html").name bytes (.text "b") none []).Yields
        (.error (.misuse misuse (.text "nope"))) _ :=
      (Extractor.yields_readPage_of_ok hread).bind (yields_throw (.misuse misuse (.text "nope")))
    have htells : Entry.Tells w x (.text "b") "page.html" _ := .failed hbytes hy rfl
    rwa [hname] at htells
  case missing =>
    have hmissing :
        w.readFile "missing.html" = .ok (.error ⟨.missing, .ofText "missing.html"⟩) :=
      congrArg Except.ok (if_neg (by rw [hname']; decide))
    have htells : Entry.Tells w x (.text "b") "missing.html" _ := .unreadable hmissing
    rwa [hname'] at htells

/-- A page declares an encoding that is not one of texts, and the run does not come to the next
one. -/
theorem run_notTextEncoding :
    let w : Surroundings :=
      { environment := [],
        read := fun p =>
          .ok (asciiBytes
            (if p.name = "bad.html" then "<meta charset=\"base64\"><h1>Bad</h1>"
              else "<h1>Catalog</h1>")) }
    Json.read "\"h1\"".toList = .ok (.text "h1") ∧
      run w ["\"h1\"", "bad.html", "good.html"] = .error (.fault (.notTextEncoding "base64")) := by
  intro w
  refine ⟨rfl, ?_⟩
  have h : (match run w ["\"h1\"", "bad.html", "good.html"] with
      | .error (.fault (.notTextEncoding name)) => name == "base64"
      | _ => false) = true := by decide +kernel
  split at h
  · rename_i hrun
    rw [hrun, eq_of_beq h]
  · cases h

end CommandLine

end Extraction
