import Extraction.CommandLine.Arguments
import Extraction.CommandLine.Path
import Extraction.Extractor
import Extraction.Json.Reader
import Extraction.Json.Writer

/-!
# Extraction from a batch of pages

One rule is evaluated in several pages, one after another, by one extractor, whose store of
descriptors goes on from page to page. Every page has an entry in the results, in the order of the
command line: its value, or why it has none. Faults, which are no failures of the page, end the
whole run, and so does a result that cannot be delivered.

## Main definitions

* `CommandLine.Surroundings` : what a run can see.
* `CommandLine.Entry` : what comes of a page, with `CommandLine.Entry.toValue`.
* `CommandLine.Outcome` : what comes of a run, with its exit code and what it prints.
* `CommandLine.Abort` : why nothing comes of a run.
* `CommandLine.run` : a run, and `CommandLine.runIn`, a run in a folder.
-/

namespace Extraction.CommandLine

/-- Why nothing comes of a run. -/
inductive Abort where
  /-- There are no options. -/
  | options (p : Options.Problem)
  /-- A fault. -/
  | fault (f : Fault)
  /-- A file other than a page cannot be read or written. -/
  | trouble (t : Path.Trouble)
  /-- The rule has a text in it that is no sequence of characters. What comes of such a rule is not
  told. -/
  | unpaired
  deriving Repr

/-- The wording of why nothing comes of a run. -/
def Abort.message : Abort → String
  | .options p => p.message
  | .fault f => f.message
  | .trouble t => t.message
  | .unpaired => "a text in the rule is no sequence of characters"

/-- What a run can see. -/
structure Surroundings where
  /-- The variables of the environment. -/
  environment : Options.Environment
  /-- The bytes of files. -/
  read : Path → Except Path.Trouble (List UInt8)
  /-- The words for the reason that an engine gives. -/
  explain : String → String := id
  /-- Whether a text of results can be delivered: written to the file at a path, or printed. A text
  may have characters that cannot be encoded there, and a file may not be writable. -/
  deliver : Option String → String → Except Abort Unit := fun _ _ => .ok ()

/-- What comes of a page. -/
inductive PageOutcome where
  /-- A value. -/
  | value (v : Value)
  /-- A failure. -/
  | failed (r : Report)
  /-- The page cannot be read. -/
  | unreadable (t : Path.Trouble)
  deriving Repr

/-- What comes of a page, under its name. -/
structure Entry where
  /-- The name of the page. -/
  file : String
  /-- What comes of it. -/
  outcome : PageOutcome
  deriving Repr

namespace Entry

/-- Whether a page has a value. -/
def isSuccess (e : Entry) : Bool :=
  match e.outcome with
  | .value _ => true
  | _ => false

/-- What comes of a page, as a value. -/
def toValue (e : Entry) : Value :=
  let head (status : String) : Entries :=
    [(.text "file", .text e.file), (.text "status", .text status)]
  match e.outcome with
  | .value v => .map (head "success" ++ [(.text "result", v)])
  | .failed r =>
    .map (head "error" ++ [(.text "error", .text r.kind), (.text "message", .text r.message),
      (.text "details", .map r.printableDetails)])
  | .unreadable t => .map (head "error" ++ [(.text "error", .text t.message)])

/-- What is printed on the way about a page. -/
def progress (e : Entry) : String :=
  "Querying: " ++ e.file ++ "\n" ++
    match e.outcome with
    | .value _ => "  ✓ done\n"
    | .failed r => "  ✗ " ++ r.kind ++ ": " ++ r.message ++ "\n"
    | .unreadable t => "  ✗ Error: " ++ t.message ++ "\n"

end Entry

/-- What comes of a run. -/
inductive Outcome where
  /-- The command line says nothing. -/
  | stopped (s : Stop)
  /-- The rule is malformed, for a reason. -/
  | badRule (reason : String)
  /-- The results, and the path of the file that they are written to. -/
  | finished (entries : List Entry) (output : Option String)
  deriving Repr

namespace Outcome

/-- The exit code of a run: zero if every page has a value. -/
def exitCode : Outcome → Nat
  | .stopped .help => 0
  | .stopped .refused => 2
  | .badRule _ => 2
  | .finished entries _ => if entries.all Entry.isSuccess then 0 else 1

/-- The results of a run as a value. -/
def resultsOf (entries : List Entry) : Value :=
  .list (entries.map Entry.toValue)

/-- The results of a run as a text. -/
def results (entries : List Entry) : String :=
  Json.write (resultsOf entries)

/-- What a run prints as its result. -/
def printed : Outcome → String
  | .finished entries none => results entries ++ "\n"
  | _ => ""

/-- What a run prints on the way. -/
def progress : Outcome → String
  | .stopped _ => ""
  | .badRule reason => "✗ Rule is not valid JSON: " ++ reason ++ "\n"
  | .finished entries output =>
    String.join (entries.map Entry.progress) ++
      match output with
      | some path => "\nSaved to: " ++ path ++ "\n"
      | none => ""

end Outcome

/-- The bytes of the file that a word names. A word with a character of code zero in it names no
file, and that is a fault and no trouble with a file. -/
def Surroundings.readFile (w : Surroundings) (word : String) :
    Except Fault (Except Path.Trouble (List UInt8)) :=
  if word.toList.contains '\x00' then .error .nullInPath else .ok (w.read (.ofText word))

/-- The bytes of the file that a word names, if there is one. -/
def fileAt (w : Surroundings) (word : String) : Except Abort (Option (List UInt8)) :=
  match w.readFile word with
  | .error _ => .ok none
  | .ok (.ok bytes) => .ok (some bytes)
  | .ok (.error t) =>
    match t.kind with
    | .missing | .notInFolder => .ok none
    | _ => .error (.trouble t)

/-- The text of the rule: that of the file at a path with the right ending, or the word itself. -/
def ruleText (w : Surroundings) (word : String) : Except Abort (List Char) := do
  if (Path.ofText word).ending = ".json" then
    match ← fileAt w word with
    | some bytes =>
      match Charset.readStrictly bytes with
      | .ok text => return text
      | .error f => throw (.fault f)
    | none => return word.toList
  else return word.toList

/-- The options of a run. -/
def optionsOf (w : Surroundings) (a : Arguments) : Except Abort Options :=
  let text (s : Option String) : Value := (s.map Value.text).getD .null
  let values : Options.Given :=
    [("parser", text a.builder), ("base_url", text a.base),
      ("log_level", if a.verbose then Log.Level.debug.toValue else .null)]
  match Options.fromEnvironment w.environment values with
  | .ok o => .ok o
  | .error p => .error (.options p)

/-- What comes of one page, with the store of descriptors before and after it. -/
def runPage [Engines] (w : Surroundings) (x : Extractor) (rule : Value) (t : Trace)
    (file : String) : Except Abort (Entry × Trace) :=
  let p := Path.ofText file
  match w.readFile file with
  | .error f => .error (.fault f)
  | .ok (.error trouble) => .ok (⟨p.name, .unreadable trouble⟩, t)
  | .ok (.ok bytes) =>
    let (outcome, after) := (x.extractPage p.name bytes rule none []).runFrom t
    match outcome with
    | .ok v => .ok (⟨p.name, .value v⟩, after)
    | .error failure =>
      match failure.describe w.explain with
      | .ok r => .ok (⟨p.name, .failed r⟩, after)
      | .error f => .error (.fault f)

/-- What comes of several pages, in order. -/
def runPages [Engines] (w : Surroundings) (x : Extractor) (rule : Value) :
    Trace → List String → Except Abort (List Entry)
  | _, [] => .ok []
  | t, file :: rest => do
    let (entry, after) ← runPage w x rule t file
    let entries ← runPages w x rule after rest
    return entry :: entries

/-- No rule that is written as JSON calls a function. -/
def noFunctions : Interpreter := fun f _ => .error (.notCallable f.kind)

/-- What comes of a run over the pages that a command line names. -/
def runWith [Engines] (w : Surroundings) (a : Arguments) : Except Abort Outcome := do
  match Json.read (← ruleText w a.rule) with
  | .error (.malformed reason) => return .badRule (w.explain reason)
  | .error (.fault f) => throw (.fault f)
  | .error .unpaired => throw .unpaired
  | .ok rule =>
    let options ← optionsOf w a
    let x : Extractor := { options, call := noFunctions }
    let t : Trace := { cache := .empty options.cacheSize }
    let entries ← runPages w x rule t a.files
    let output := a.output.filter fun path => !path.isEmpty
    match (Outcome.resultsOf entries).writeFault? with
    | some f => throw (.fault f)
    | none => do
      w.deliver output (Outcome.results entries)
      return .finished entries output

/-- What comes of a run with the words of a command line. -/
def run [Engines] (w : Surroundings) (words : List String) : Except Abort Outcome :=
  match Arguments.read words with
  | .error stop => .ok (.stopped stop)
  | .ok a => runWith w a

/-- The folder in which results have been delivered: they are written to the file at a path, if
there is one. -/
def deliverIn (f : Folder) (output : Option String) (text : String) : Except Abort Folder :=
  match output with
  | none => .ok f
  | some path =>
    if path.toList.contains '\x00' then .error (.fault .nullInPath)
    else (f.write (.ofText path) text.toUTF8.toList).mapError .trouble

/-- What comes of a run in a folder, and the folder after it. -/
def runIn [Engines] (f : Folder) (environment : Options.Environment) (explain : String → String)
    (words : List String) : Except Abort (Outcome × Folder) := do
  let deliver output text := (deliverIn f output text).map fun _ => ()
  let outcome ← run { environment, read := f.read, explain, deliver } words
  match outcome with
  | .finished entries output => return (outcome, ← deliverIn f output (Outcome.results entries))
  | _ => return (outcome, f)

end Extraction.CommandLine
