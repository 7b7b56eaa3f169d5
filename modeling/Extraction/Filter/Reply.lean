import Extraction.Notice

/-!
# What a filter answers

A filter turns a value and the arguments of its call into a value or a fault, and may leave
notices.

## Main definitions

* `Reply` : the answer of a filter.
* `Arity` : how many arguments a filter takes, and how they are called.
-/

namespace Extraction

/-- The answer of a filter. -/
structure Reply where
  /-- The value, or why there is none. -/
  outcome : Except Fault Value
  /-- The notices, in order. -/
  notices : List Notice := []
  deriving Repr

namespace Reply

/-- A value and no notice. -/
def ok (v : Value) : Reply := ⟨.ok v, []⟩

/-- A fault and no notice. -/
def fail (f : Fault) : Reply := ⟨.error f, []⟩

/-- A value and a notice. -/
def warn (v : Value) (n : Notice) : Reply := ⟨.ok v, [n]⟩

/-- A computation that may fail and leaves no notice. -/
def ofExcept (r : Except Fault Value) : Reply := ⟨r, []⟩

end Reply

/-- How many arguments a filter takes besides the value, and how they are called. -/
structure Arity where
  /-- The name of the filter in faults about its arguments. -/
  name : String
  /-- The names of the arguments that it needs. -/
  needed : List String := []
  /-- The number of arguments that it may have besides. -/
  optional : Nat := 0
  deriving DecidableEq, Repr

/-- What is wrong with the number of arguments of a call, if anything. The value counts as one. -/
def Arity.fault? (a : Arity) (given : Nat) : Option Fault :=
  let least := a.needed.length + 1
  let most := least + a.optional
  if given + 1 > most then some (.tooManyArguments a.name least most (given + 1))
  else (a.needed[given]?).map (Fault.missingArgument a.name)

end Extraction
