import Extraction.Filter.Reply
import Extraction.Number.Decimal
import Extraction.Text.Word
import Extraction.Text.Blank

/-!
# The filter of sizes

A size is an amount and a unit. The amount is rounded to whole bytes, a half upwards. Units are
powers of 1024, apart from those in small b that count bits, for which rounded factors are fixed.

## Main definitions

* `Filter.unitFactor?` : the number of bytes of a unit.
* `Filter.SizeParts`, `Filter.sizeParts?` : the amount and the unit that a text writes.
* `Filter.size` : the number of bytes of a size.
-/

namespace Extraction.Filter

open Text

/-- The number of bytes of a unit, as a quotient of integers. -/
def unitRatio? (unit : String) : Option (Nat × Nat) :=
  if unit ∈ ["b", "bit", "bits"] then some (1, 8)
  else if unit ∈ ["B", "Byte", "Bytes", "bytes"] then some (1, 1)
  else if unit = "Kb" then some (128, 1)
  else if unit ∈ ["k", "K", "kb", "KB", "KiB", "Ki", "ki"] then some (1024, 1)
  else if unit = "Mb" then some (131072, 1)
  else if unit ∈ ["m", "M", "mb", "MB", "MiB", "Mi", "mi"] then some (twoTo 20, 1)
  else if unit = "Gb" then some (134200000, 1)
  else if unit ∈ ["g", "G", "gb", "GB", "GiB", "Gi", "gi"] then some (twoTo 30, 1)
  else if unit = "Tb" then some (137400000000, 1)
  else if unit ∈ ["t", "T", "tb", "TB", "TiB", "Ti", "ti"] then some (twoTo 40, 1)
  else if unit = "Pb" then some (140700000000000, 1)
  else if unit ∈ ["p", "P", "pb", "PB", "PiB", "Pi", "pi"] then some (twoTo 50, 1)
  else if unit = "Eb" then some (144100000000000000, 1)
  else if unit ∈ ["e", "E", "eb", "EB", "EiB", "Ei", "ei"] then some (twoTo 60, 1)
  else none

/-- The number of bytes of a unit. -/
def unitFactor? (unit : String) : Option Binary64 :=
  (unitRatio? unit).map fun (num, den) => Binary64.ofRatio false num den

/-- The amount and the unit of a size, as they are written. -/
structure SizeParts where
  /-- The characters of the amount. -/
  amount : List Char
  /-- The characters of the unit. -/
  unit : List Char
  deriving DecidableEq, Repr

/-- Whether a character may stand in an amount. -/
def isAmountChar (c : Char) : Bool :=
  isAsciiDigit c || c = '.' || c = ','

/-- The first amount in the first line of a text, and the unit after it. -/
def sizeParts? (s : List Char) : Option SizeParts :=
  match s.dropWhile fun c => !isAmountChar c && c ≠ '\n' with
  | [] => none
  | c :: rest =>
    if c = '\n' then none
    else
      let after := ((c :: rest).dropWhile isAmountChar).dropWhile isBlank
      some ⟨(c :: rest).takeWhile isAmountChar, after.takeWhile isWord⟩

/-- The number that an amount writes: its first comma is a point. -/
def amount? (s : List Char) : Option Binary64 :=
  let pointed := s.takeWhile (· ≠ ',') ++
    match s.dropWhile (· ≠ ',') with
    | [] => []
    | _ :: rest => '.' :: rest
  match Binary64.read? pointed with
  | some x => if x.isFinite then some x else none
  | none => none

/-- The integer nearest to a number, a half upwards. -/
def roundHalfUp (x : Binary64) : Except Fault Value :=
  match (x.add (Binary64.ofRatio false 1 2)).floor? with
  | some n => .ok (.int n)
  | none => .error .infiniteNumber

/-- The number of bytes of a size; a text that writes no size stays, with a notice, and so does any
other value, without one. -/
def size (v : Value) : Reply :=
  match v with
  | .text s =>
    match sizeParts? s.toList with
    | none => .warn v (.notSize s)
    | some parts =>
      match amount? parts.amount with
      | none => .warn v (.notSize s)
      | some x =>
        if parts.unit.any isDigitLike then .warn v (.notSize s)
        else if parts.unit.isEmpty then .ofExcept (roundHalfUp x)
        else
          match unitFactor? (String.ofList parts.unit) with
          | some factor => .ofExcept (roundHalfUp (x.mul factor))
          | none => .warn v (.unknownUnit (String.ofList parts.unit))
  | other => .ok other

end Extraction.Filter
