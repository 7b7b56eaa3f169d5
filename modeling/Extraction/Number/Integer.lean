import Extraction.Text.Blank
import Extraction.Fault

/-!
# Reading integers

An integer is written as a sign or none and digits of any script, with single low lines between
digits and blanks around the whole. At most 4300 digits are read.

## Main definitions

* `Integer.read` : the integer that a text writes, or the fault.
* `Integer.ofDigits` : the number that digits write, or the fault.
-/

namespace Extraction.Integer

open Text

/-- The greatest number of digits of an integer that is read or written. -/
def maxDigits : Nat := 4300

/-- Whether a character may stand around an integer: the blanks but the information separators. -/
def isMargin (c : Char) : Bool :=
  isBlank c && !(0x1C ≤ c.toNat && c.toNat ≤ 0x1F)

/-- Whether a text is digits with single low lines between them. -/
def isDigitRun : List Char → Bool
  | [] => false
  | [c] => isDigit c
  | c :: '_' :: rest => isDigit c && isDigitRun rest
  | c :: rest => isDigit c && isDigitRun rest

/-- The integer that a text writes. -/
def read (s : String) : Except Fault Int :=
  let body := ((s.toList.dropWhile isMargin).reverse.dropWhile isMargin).reverse
  let (negative, run) := Decimal.readSign body
  if isDigitRun run then
    let digits := run.filter isDigit
    if digits.length > maxDigits then .error (.integerTooLong digits.length)
    else
      let n : Int := Decimal.digitsValue digits
      .ok (if negative then -n else n)
  else .error (.badInteger s)

/-- The number that digits write. -/
def ofDigits (ds : List Char) : Except Fault Nat :=
  if ds.length > maxDigits then .error (.integerTooLong ds.length)
  else .ok (Decimal.digitsValue ds)

end Extraction.Integer
