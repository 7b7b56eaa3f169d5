import Extraction.Fault
import Extraction.Text.Blank
import Extraction.Text.Case

/-!
# Levels of a log

A level says how severe a notice must be to be let through. It is a number or goes by a name, whose
case and surrounding blanks do not matter.

## Main definitions

* `Log.Level` : the levels, with `Log.Level.rank`.
* `Log.Level.resolve` : the level that a value stands for.
-/

namespace Extraction.Log

/-- A level: a number, or a truth value, which counts as one or zero. -/
inductive Level where
  | number (n : Int)
  | truth (b : Bool)
  deriving DecidableEq, Repr

namespace Level

/-- The number of a level. -/
def rank : Level → Int
  | .number n => n
  | .truth b => if b then 1 else 0

/-- A level as a value. -/
def toValue : Level → Value
  | .number n => .int n
  | .truth b => .bool b

/-- The levels by their names. -/
def named : List (String × Int) :=
  [("CRITICAL", 50), ("FATAL", 50), ("ERROR", 40), ("WARN", 30), ("WARNING", 30), ("INFO", 20),
    ("DEBUG", 10), ("NOTSET", 0)]

/-- The level of everything, down to what only helps in finding mistakes. -/
def debug : Level := .number 10

/-- The level of a log unless another one is chosen. -/
def usual : Level := .number 20

/-- The level of a log for which neither it nor any log above it has one. -/
def lastResort : Level := .number 30

/-- The level that a text names. -/
def ofName? (s : String) : Option Level :=
  (named.lookup (String.ofList (Text.upper (Text.trim s.toList)))).map .number

/-- The level that a value stands for: an integer or a truth value is a level itself. -/
def resolve : Value → Except Fault Level
  | .int n => .ok (.number n)
  | .bool b => .ok (.truth b)
  | v =>
    match ofName? v.written with
    | some level => .ok level
    | none => .error (.unknownLevel v)

end Level

end Extraction.Log
