import Extraction.Number.Integer

/-!
# Plain texts of values

Filters of numbers, lists and dates work on the plain text of a value. There is none if an integer
in the value has more digits than are written, or if the value is a moment whose zone is a day or
more from universal time.

## Main definitions

* `Integer.writeFault?` : why an integer is not written.
* `Value.quoteFault?`, `Value.textFault?` : why a value cannot be cited, and why it has no plain
  text.
* `Value.plainText` : the plain text of a value.
-/

namespace Extraction

/-- Why an integer cannot be written, if it cannot: it has too many digits. -/
def Integer.writeFault? (n : Int) : Option Fault :=
  if Decimal.digitCount n.natAbs > maxDigits then some .integerNotWritten else none

namespace Value

mutual

/-- Why a value cannot be cited, if it cannot: an integer in it cannot be written. -/
def quoteFault? : Value → Option Fault
  | .int n => Integer.writeFault? n
  | .list items => itemsQuoteFault? items
  | .tuple items => itemsQuoteFault? items
  | .set items => itemsQuoteFault? items
  | .map entries => entriesQuoteFault? entries
  | _ => none

/-- Why the items of a list cannot be cited, if they cannot. -/
def itemsQuoteFault? : List Value → Option Fault
  | [] => none
  | v :: rest => (quoteFault? v).orElse fun _ => itemsQuoteFault? rest

/-- Why the entries of a map cannot be cited, if they cannot. -/
def entriesQuoteFault? : List (Value × Value) → Option Fault
  | [] => none
  | (k, v) :: rest =>
    (quoteFault? k).orElse fun _ => (quoteFault? v).orElse fun _ => entriesQuoteFault? rest

end

/-- Why a value has no plain text, if it has none. -/
def textFault? : Value → Option Fault
  | .moment m => m.writeFault?
  | v => v.quoteFault?

/-- The plain text of a value. -/
def plainText (v : Value) : Except Fault String :=
  match v.textFault? with
  | some f => .error f
  | none => .ok v.written

end Value

end Extraction
