import Extraction.Filter.Reply
import Extraction.Value.Plain

/-!
# Arguments of filters

Filters take their arguments as they are written in the query and read them as they need: a missing
or empty argument stands for a default, and an integer may be written as a text.

## Main definitions

* `Argument.integer?` : the integer that an argument stands for, if it is given.
* `Argument.isTruthy` : whether a value counts as given where a flag is asked for.
-/

namespace Extraction.Argument

/-- Whether a value counts as given: the empty value, zero and whatever has no items do not. -/
def isTruthy : Value → Bool
  | .null => false
  | .bool b => b
  | .int n => n != 0
  | .float x => !x.isZero
  | .text s => !s.isEmpty
  | .bytes bs => !bs.isEmpty
  | .list items | .tuple items | .set items => !items.isEmpty
  | .map entries => !entries.isEmpty
  | .moment _ | .function .. => true

/-- The integer that an argument stands for; none if the argument is missing or empty. -/
def integer? : Value → Except Fault (Option Int)
  | .null => .ok none
  | .text "" => .ok none
  | .bool b => .ok (some (if b then 1 else 0))
  | .int n => .ok (some n)
  | other => do
    let n ← Integer.read (Text.trimmed (← other.plainText))
    return some n

/-- The integer of the argument at a position. -/
def integerAt? (arguments : List Value) (i : Nat) : Except Fault (Option Int) :=
  integer? (arguments.getD i .null)

end Extraction.Argument
