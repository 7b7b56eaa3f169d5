import Extraction.Fault

/-!
# Comparing values

Whether two values are equal cannot always be told: moments in different zones are compared as
instants, and a zone that is a day or more from universal time gives none. Values with parts are
compared part by part, and no further than the first difference.

## Main definitions

* `Moment.compareFault?`, `Value.compareFault?` : why it cannot be told whether two moments or two
  values are equal.
-/

namespace Extraction

/-- Why it cannot be told whether two moments are equal, if it cannot: their zones differ, and one
of them is a day or more from universal time. -/
def Moment.compareFault? (a b : Moment) : Option Fault :=
  if a.zone = b.zone then none else a.writeFault?.orElse fun _ => b.writeFault?

namespace Value

mutual

/-- Why it cannot be told whether two values are equal, if it cannot. -/
def compareFault? : Value → Value → Option Fault
  | .moment a, .moment b => a.compareFault? b
  | .list a, .list b => if a.length = b.length then itemsCompareFault? a b else none
  | .tuple a, .tuple b => itemsCompareFault? a b
  | .map a, .map b => if a.length = b.length then entriesCompareFault? a b else none
  | _, _ => none

/-- Why it cannot be told whether two lists are equal item by item, if it cannot: items are compared
up to the first two that differ. -/
def itemsCompareFault? : List Value → List Value → Option Fault
  | a :: as, b :: bs =>
    (compareFault? a b).orElse fun _ => if a.equal b then itemsCompareFault? as bs else none
  | _, _ => none

/-- Why it cannot be told whether the entries of a map are those of another, if it cannot: values of
equal keys are compared up to the first two that differ. -/
def entriesCompareFault? : List (Value × Value) → List (Value × Value) → Option Fault
  | [], _ => none
  | (k, v) :: rest, es =>
    match es.find? fun e => k.equal e.1 with
    | none => none
    | some e =>
      (compareFault? v e.2).orElse fun _ =>
        if v.equal e.2 then entriesCompareFault? rest es else none

end

end Value

end Extraction
