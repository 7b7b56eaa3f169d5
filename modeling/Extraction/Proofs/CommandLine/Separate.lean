import Extraction.Proofs.CommandLine.Batch

/-!
# Batches and separate runs

The pages of a run share one extractor and its store of descriptors, and yet they do not notice each
other: what a run reports for several pages is what separate runs report for one page each, in the
order of the pages, and it is a success if all of them are.

## Main definitions

* `CommandLine.Outcome.entries` : the entries that a run reports.

## Main results

* `CommandLine.Entry.Tells.unique` : one entry tells of a page.
* `CommandLine.exists_entries_of_run` : a run with a well-formed rule has an entry for every page.
* `CommandLine.entries_separate` : a run over several pages reports what separate runs report.
-/

namespace Extraction.CommandLine

open Evaluation

/-- The entries that a run reports. -/
def Outcome.entries : Outcome → List Entry
  | .finished entries _ => entries
  | _ => []

/-- The exit code of a run that has finished is zero or one, and zero if every entry has a value. -/
theorem Outcome.exitCode_finished (entries : List Entry) (output : Option String) :
    ((finished entries output).exitCode = 0 ↔ ∀ e ∈ entries, e.isSuccess = true) ∧
      ((finished entries output).exitCode ≠ 0 → (finished entries output).exitCode = 1) := by
  rw [exitCode, ← List.all_eq_true]
  cases entries.all Entry.isSuccess with
  | false => simp
  | true => simp

section Run

variable [Engines] {w : Surroundings} {x : Extractor} {rule : Value} {a : Arguments}
  {outcome : Outcome} {words : List String} {text : List Char}

/-- One entry tells of a page. -/
theorem Entry.Tells.unique {file : String} {e e' : Entry} (h : e.Tells w x rule file)
    (h' : e'.Tells w x rule file) : e = e' := by
  obtain ⟨after, hpage, -⟩ := h.runPage Trace.faithful_empty
  obtain ⟨after', hpage', -⟩ := h'.runPage Trace.faithful_empty
  exact (Prod.mk.inj (Except.ok.inj (hpage.symm.trans hpage'))).1

/-- The entries of several pages are put together from lists of entries, one for each page, if each
of these holds the one entry that tells of its page. -/
theorem entries_eq_flatMap {files : List String} {entries : List Entry}
    (h : List.Forall₂ (fun file e => Entry.Tells w x rule file e) files entries)
    {separate : String → List Entry}
    (hseparate : ∀ file ∈ files, List.Forall₂ (fun file e => Entry.Tells w x rule file e) [file]
      (separate file)) : entries = files.flatMap separate := by
  induction h with
  | nil => rfl
  | @cons file e files entries he _ ih =>
    obtain ⟨hfile, hfiles⟩ := List.forall_mem_cons.1 hseparate
    obtain ⟨e', es, he', hes, hsplit⟩ := List.forall₂_cons_left_iff.1 hfile
    rw [List.forall₂_nil_left_iff] at hes
    rw [List.flatMap_cons, hsplit, hes, he.unique he', ih hfiles]
    rfl

/-- A run that comes to something has a text of its rule. -/
theorem exists_ruleText_of_run (hwords : Arguments.read words = .ok a)
    (h : run w words = .ok outcome) : ∃ text, ruleText w a.rule = .ok text := by
  simp only [run, hwords] at h
  obtain ⟨text, htext, -⟩ := Result.bind_eq_ok_iff.1 h
  exact ⟨text, htext⟩

/-- A run whose rule is not well-formed does not look at a page. -/
theorem eq_badRule_of_run (hwords : Arguments.read words = .ok a)
    (htext : ruleText w a.rule = .ok text) {problem : Json.Problem}
    (hrule : Json.read text = .error problem) (h : run w words = .ok outcome) :
    ∃ reason, outcome = .badRule reason := by
  simp only [run, hwords, runWith, htext, hrule, Result.ok_bind] at h
  cases problem with
  | malformed reason => exact ⟨w.explain reason, (Except.ok.inj h).symm⟩
  | fault f => cases h
  | unpaired => cases h

/-- A run with a well-formed rule has finished with one entry for every page. -/
theorem exists_entries_of_run (hwords : Arguments.read words = .ok a)
    (htext : ruleText w a.rule = .ok text) (hrule : Json.read text = .ok rule)
    (h : run w words = .ok outcome) :
    ∃ options entries output, optionsOf w a = .ok options ∧ outcome = .finished entries output ∧
      List.Forall₂ (fun file e => Entry.Tells w { options, call := noFunctions } rule file e)
        a.files entries := by
  have hoptions : ∃ options, optionsOf w a = .ok options := by
    simp only [run, hwords, runWith, htext, hrule, Result.ok_bind] at h
    obtain ⟨options, hoptions, -⟩ := Result.bind_eq_ok_iff.1 h
    exact ⟨options, hoptions⟩
  obtain ⟨options, hoptions⟩ := hoptions
  rw [run_eq hwords htext hrule hoptions] at h
  obtain ⟨entries, hentries, h⟩ := Result.bind_eq_ok_iff.1 h
  cases hwrite : (Outcome.resultsOf entries).writeFault? with
  | some f =>
    rw [hwrite] at h
    cases h
  | none =>
    rw [hwrite] at h
    obtain ⟨_, -, h⟩ := Result.bind_eq_ok_iff.1 h
    exact ⟨options, entries, _, hoptions, (Except.ok.inj h).symm,
      (runPages_ok_iff (Query.Cache.faithful_empty _)).1 hentries⟩

/-- A run with a well-formed rule finishes if every page has an entry, all values among these can be
written, and the results can be delivered. -/
theorem run_of_entries {options : Options} {entries : List Entry}
    (hwords : Arguments.read words = .ok a) (htext : ruleText w a.rule = .ok text)
    (hrule : Json.read text = .ok rule) (hoptions : optionsOf w a = .ok options)
    (hentries : List.Forall₂
      (fun file e => Entry.Tells w { options, call := noFunctions } rule file e) a.files entries)
    (hwrite : ∀ e ∈ entries, ∀ v, e.outcome = .value v → v.writeFault? = none)
    (hdeliver : w.deliver (a.output.filter fun path => !path.isEmpty) (Outcome.results entries) =
      .ok ()) :
    run w words = .ok (.finished entries (a.output.filter fun path => !path.isEmpty)) := by
  rw [run_eq hwords htext hrule hoptions,
    (runPages_ok_iff (Query.Cache.faithful_empty _)).2 hentries, Result.ok_bind,
    Outcome.writeFault?_resultsOf_eq_none_iff.2 hwrite, Option.elim_none, hdeliver]
  rfl

/-- **A batch is separate runs.** Take any engines, any words that name a rule and pages, in any
surroundings; the options may be any, and pages may be repeated or missing. If the run comes to
something, and so does a run for every page alone, of words that differ from these in the pages
only, then the entries of the run are those of the runs for one page, in the order of the pages. If
the rule is well-formed JSON, the exit code is zero exactly if it is zero for every page alone, and
else it is one. If the rule is not, no run looks at a page, and all of them have the exit code
two. -/
theorem entries_separate (w : Surroundings) (words : List String) (a : Arguments)
    (outcome : Outcome) (separate : String → Outcome) (hwords : Arguments.read words = .ok a)
    (hrun : run w words = .ok outcome)
    (hseparate : ∀ file ∈ a.files, ∃ alone, Arguments.read alone = .ok { a with files := [file] } ∧
      run w alone = .ok (separate file)) :
    outcome.entries = a.files.flatMap (fun file => (separate file).entries) ∧
    (∀ text rule, ruleText w a.rule = .ok text → Json.read text = .ok rule →
      (outcome.exitCode = 0 ↔ ∀ file ∈ a.files, (separate file).exitCode = 0) ∧
        (outcome.exitCode ≠ 0 → outcome.exitCode = 1)) ∧
    ∀ text problem, ruleText w a.rule = .ok text → Json.read text = .error problem →
      outcome.exitCode = 2 ∧ ∀ file ∈ a.files, (separate file).exitCode = 2 := by
  obtain ⟨text, htext⟩ := exists_ruleText_of_run hwords hrun
  have hread {text' : List Char} (htext' : ruleText w a.rule = .ok text') :
      Json.read text' = Json.read text := by
    rw [Except.ok.inj (htext'.symm.trans htext)]
  cases hrule : Json.read text with
  | error problem =>
    obtain ⟨reason, rfl⟩ := eq_badRule_of_run hwords htext hrule hrun
    have hbad (file : String) (hfile : file ∈ a.files) :
        ∃ reason, separate file = .badRule reason := by
      obtain ⟨alone, halone, hfinishes⟩ := hseparate file hfile
      exact eq_badRule_of_run halone htext hrule hfinishes
    refine ⟨?entries, fun text' rule htext' hrule' => ?wellFormed,
      fun text' problem' htext' hrule' => ⟨rfl, fun file hfile => ?malformed⟩⟩
    case entries =>
      refine (List.flatMap_eq_nil_iff.2 fun file hfile => ?_).symm
      obtain ⟨reason', hfile⟩ := hbad file hfile
      rw [hfile]
      rfl
    case wellFormed =>
      rw [hread htext', hrule] at hrule'
      cases hrule'
    case malformed =>
      obtain ⟨reason', hfile⟩ := hbad file hfile
      rw [hfile]
      rfl
  | ok rule =>
    obtain ⟨options, entries, output, hoptions, rfl, hentries⟩ :=
      exists_entries_of_run hwords htext hrule hrun
    have hsingle (file : String) (hfile : file ∈ a.files) : ∃ es output,
        separate file = .finished es output ∧ List.Forall₂
          (fun file e => Entry.Tells w { options, call := noFunctions } rule file e) [file] es := by
      obtain ⟨alone, halone, hfinishes⟩ := hseparate file hfile
      obtain ⟨options', es, output', hoptions', hes, htells⟩ :=
        exists_entries_of_run halone htext hrule hfinishes
      obtain rfl := Except.ok.inj (hoptions.symm.trans hoptions')
      exact ⟨es, output', hes, htells⟩
    have hflat : entries = a.files.flatMap fun file => (separate file).entries := by
      refine entries_eq_flatMap hentries fun file hfile => ?_
      obtain ⟨es, output', hes, htells⟩ := hsingle file hfile
      rw [hes]
      exact htells
    refine ⟨hflat, fun text' rule' htext' hrule' => ?wellFormed,
      fun text' problem htext' hrule' => ?malformed⟩
    case wellFormed =>
      obtain ⟨hzero, hone⟩ := Outcome.exitCode_finished entries output
      refine ⟨?_, hone⟩
      rw [hzero, hflat, List.forall_mem_flatMap]
      refine forall₂_congr fun file hfile => ?_
      obtain ⟨es, output', hes, -⟩ := hsingle file hfile
      rw [hes]
      exact (Outcome.exitCode_finished es output').1.symm
    case malformed =>
      rw [hread htext', hrule] at hrule'
      cases hrule'

end Run

/-- A page with a value, named twice, and one that is missing between. -/
theorem entries_separate_repeated :
    let bytes := asciiBytes "<meta charset=big5>"
    let w : Surroundings :=
      { environment := [],
        read := fun p => if p.name = "page.html" then .ok bytes else .error ⟨.missing, p⟩ }
    let page : Entry := ⟨"page.html", .value (.map [])⟩
    let missing : Entry := ⟨"missing.html", .unreadable ⟨.missing, .ofText "missing.html"⟩⟩
    let separate (file : String) : Outcome :=
      .finished [if file = "page.html" then page else missing] none
    let files := ["page.html", "missing.html", "page.html"]
    let outcome : Outcome := .finished [page, missing, page] none
    run w ("{}" :: files) = .ok outcome ∧
      (∀ file ∈ files, run w ["{}", file] = .ok (separate file)) ∧
      outcome.entries = files.flatMap (fun file => (separate file).entries) ∧
      (outcome.exitCode = 0 ↔ ∀ file ∈ files, (separate file).exitCode = 0) ∧
      (separate "page.html").exitCode = 0 ∧ outcome.exitCode = 1 := by
  intro bytes w page missing separate files outcome
  let x : Extractor := { options := {}, call := noFunctions }
  have hname : (Path.ofText "page.html").name = "page.html" := by decide +kernel
  have hname' : (Path.ofText "missing.html").name = "missing.html" := by decide +kernel
  have htext : ruleText w "{}" = .ok "{}".toList := by
    simp only [ruleText]
    rw [if_neg (by decide +kernel)]
    rfl
  have hpage : Entry.Tells w x (.map []) "page.html" page := by
    have hread : Charset.readDeclared bytes = .ok "<meta charset=big5>".toList :=
      Result.toOption_eq_some_iff.1 (by decide +kernel)
    obtain ⟨d, hd⟩ := Result.exists_eq_ok_of_isSome_toOption
      (x := Engines.build .standard (String.ofList "<meta charset=big5>".toList).toList)
      (by decide +kernel)
    have hload : (x.load (.text (String.ofList "<meta charset=big5>".toList)) none).Yields
        (.ok (.root d)) [] := by
      rw [x.load_of_build rfl hd rfl]
      exact yields_pure _
    have hvalue : (x.extractPage (Path.ofText "page.html").name bytes (.map []) none []).Yields
        (.ok (.map [])) _ :=
      (Extractor.yields_readPage_of_ok hread).bind (hload.bind (yields_pure _))
    have htells : Entry.Tells w x (.map []) "page.html" _ :=
      .value (congrArg Except.ok (if_pos hname)) hvalue
    rwa [hname] at htells
  have hmissing : Entry.Tells w x (.map []) "missing.html" missing := by
    have hread : w.readFile "missing.html" = .ok (.error ⟨.missing, .ofText "missing.html"⟩) :=
      congrArg Except.ok (if_neg (by rw [hname']; decide))
    have htells : Entry.Tells w x (.map []) "missing.html" _ := .unreadable hread
    rwa [hname'] at htells
  have hwrite (entries : List Entry) (h : ∀ e ∈ entries, e = page ∨ e = missing) :
      ∀ e ∈ entries, ∀ v, e.outcome = .value v → v.writeFault? = none := by
    intro e he v hv
    obtain rfl | rfl := h e he
    · obtain rfl := PageOutcome.value.inj hv
      rfl
    · cases hv
  have hrun : run w ("{}" :: files) = .ok outcome :=
    run_of_entries (a := { rule := "{}", files }) (by decide +kernel) htext rfl rfl
      (.cons hpage (.cons hmissing (.cons hpage .nil))) (hwrite _ (by simp)) rfl
  have hone : run w ["{}", "page.html"] = .ok (separate "page.html") :=
    run_of_entries (a := { rule := "{}", files := ["page.html"] }) (by decide +kernel) htext rfl rfl
      (.cons hpage .nil) (hwrite _ (by simp)) rfl
  have hother : run w ["{}", "missing.html"] = .ok (separate "missing.html") :=
    run_of_entries (a := { rule := "{}", files := ["missing.html"] }) (by decide +kernel) htext rfl
      rfl (.cons hmissing .nil) (hwrite _ (by simp)) rfl
  have hseparate : ∀ file ∈ files, run w ["{}", file] = .ok (separate file) := by
    simp only [files, List.forall_mem_cons]
    exact ⟨hone, hother, hone, by simp⟩
  have halone : ∀ file ∈ files,
      Arguments.read ["{}", file] = .ok { rule := "{}", files := [file] } := by
    decide +kernel
  obtain ⟨hentries, hexit, -⟩ := entries_separate w ("{}" :: files) { rule := "{}", files } outcome
    separate (by decide +kernel) hrun fun file hfile =>
      ⟨["{}", file], halone file hfile, hseparate file hfile⟩
  exact ⟨hrun, hseparate, hentries, (hexit _ _ htext rfl).1, rfl, rfl⟩

end Extraction.CommandLine
