import Extraction.CommandLine.Batch

/-!
# The command line program

The program evaluates a rule in pages and prints the results as JSON. What it does is decided by
`CommandLine.run`; here files are read and written and texts are printed.

## Main definitions

* `main` : the program.
-/

namespace Extraction.Main

open Extraction CommandLine

/-- The kind of trouble that an error of the system is. -/
def troubleKind : IO.Error → Path.TroubleKind
  | .inappropriateType _ code _ => if code = 20 then .notInFolder else .isFolder
  | .permissionDenied .. => .denied
  | .invalidArgument .. => .nameTooLong
  | _ => .missing

/-- The bytes of a file. -/
def readFile (p : Path) : IO (Except Path.Trouble (List UInt8)) := do
  try
    let bytes ← IO.FS.readBinFile p.text
    return .ok bytes.toList
  catch e => return .error ⟨troubleKind e, p⟩

/-- The paths that a command line may name. -/
def pathsOf (a : Arguments) : List Path :=
  (a.rule :: a.files).map Path.ofText

/-- What a run can see of the system. -/
def surroundings (words : List String) : IO Surroundings := do
  let names := ["PARSER", "CACHE_SIZE", "LOG_LEVEL", "KEEP_RELATIVE_URLS"].map ("HTML_QUERY_" ++ ·)
  let environment ← names.filterMapM fun name => do
    return (← IO.getEnv name).map fun s => (name, s)
  let paths := match Arguments.read words with
    | .ok a => pathsOf a
    | .error _ => []
  let files ← paths.mapM fun p => do return (p, ← readFile p)
  return { environment, read := fun p => (files.lookup p).getD (.error ⟨.missing, p⟩) }

/-- The outcome of a run is printed, and its results are written to a file if it names one. -/
def report (outcome : Outcome) : IO UInt32 := do
  match outcome with
  | .finished entries (some path) =>
    IO.FS.writeFile (Path.ofText path).text (Outcome.results entries)
  | _ => pure ()
  IO.eprint outcome.progress
  IO.print outcome.printed
  return UInt32.ofNat outcome.exitCode

end Extraction.Main

/-- The program. -/
def main (words : List String) : IO UInt32 := do
  match Extraction.CommandLine.run (← Extraction.Main.surroundings words) words with
  | .ok outcome => Extraction.Main.report outcome
  | .error abort => do
    IO.eprintln abort.message
    return 1
