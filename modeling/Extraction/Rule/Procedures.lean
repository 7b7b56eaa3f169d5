import Extraction.Evaluation
import Extraction.Text.Case

/-!
# Named functions

Functions that rules and overlays may refer to by name, each with at most one captured value. They
take any number of arguments; the first is the one that they work on, and it is the empty value if
there is none.

## Main definitions

* `Procedure` : the functions.
* `Procedure.run` : what a function gives.
* `Procedure.interpreter` : the meaning of references to functions.
-/

namespace Extraction

/-- The named functions. -/
inductive Procedure where
  | const
  | upper
  | wrap
  | pair
  | args
  | count
  | get
  | fail
  | failIf
  deriving DecidableEq, Repr

namespace Procedure

/-- The function of a name. -/
def ofName? : String → Option Procedure
  | "const" => some const
  | "upper" => some upper
  | "wrap" => some wrap
  | "pair" => some pair
  | "args" => some args
  | "count" => some count
  | "get" => some get
  | "fail" => some fail
  | "fail_if" => some failIf
  | _ => none

/-- The number of characters, items or entries of a value; minus one if it has no such parts. -/
def countOf : Value → Int
  | .text s => s.toList.length
  | .list items | .tuple items => items.length
  | .map entries => entries.length
  | _ => -1

/-- What a function with a captured value gives for arguments. -/
def run (p : Procedure) (captured : Value) (arguments : List Value) : Except Fault Value :=
  let v := arguments.headD .null
  match p with
  | const => .ok captured
  | upper =>
    match v with
    | .text s => .ok (.text (Text.upperString s))
    | other => .ok other
  | wrap => .ok (.list [v])
  | pair => .ok (.list [v, v])
  | args => .ok (.list arguments)
  | count => .ok (.int (countOf v))
  | get =>
    match v with
    | .map entries => .ok ((Entries.get? entries captured).getD .null)
    | _ => .ok .null
  | fail => .error (.reported .runtime captured.written)
  | failIf =>
    if v.equal captured then .error (.reported .value ("bad item " ++ v.written)) else .ok v

/-- The meaning of references to functions: a name without a function cannot be called. -/
def interpreter : Interpreter
  | .function name captured, arguments =>
    match ofName? name with
    | some p => p.run (captured.headD .null) arguments
    | none => .error (.notCallable (Value.function name captured).kind)
  | other, _ => .error (.notCallable other.kind)

end Procedure

end Extraction
