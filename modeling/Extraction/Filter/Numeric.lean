import Extraction.Filter.Argument

/-!
# Filters of numbers

A number is found in the plain text of a value: the first run of digits as an integer, the first
signed decimal as a double-precision number. Where there is none, the default takes its place, or
else the value; of these the leading number counts, and without one the result is not-a-number.

## Main definitions

* `Filter.toInteger`, `Filter.toFloat` : the first integer and the first decimal of a value.
* `Filter.toBool` : whether a value is neither empty, zero, missing nor not-a-number.
* `Filter.number` : the leading decimal of a value with a fixed count of places.
-/

namespace Extraction.Filter

open Text

/-- A finite integer or double-precision number, cut to an integer; nothing if it is neither. -/
def finiteInteger? : Value → Except Fault (Option Int)
  | .int n => if (Binary64.ofInt n).isFinite then .ok (some n) else .error .integerTooLarge
  | .float x => .ok x.truncate?
  | _ => .ok none

/-- The integer that the leading digits of a text write, after blanks and a sign. -/
def leadingInteger (s : List Char) : Except Fault Value :=
  let body := trimStart s
  let (_, afterSign) := Decimal.readSign body
  let digits := afterSign.takeWhile isDigit
  if digits.isEmpty then .ok (.float .nan)
  else
    let sign := body.take (body.length - afterSign.length)
    (Integer.read (String.ofList (sign ++ digits))).map Value.int

/-- The leading integer of a value. -/
def integerOf (v : Value) : Except Fault Value :=
  match finiteInteger? v with
  | .ok (some n) => .ok (.int n)
  | .ok none => do leadingInteger (← v.plainText).toList
  | .error f => .error f

/-- The leading double-precision number of a value. -/
def floatOf (v : Value) : Except Fault Binary64 :=
  match v with
  | .int n =>
    let x := Binary64.ofInt n
    if x.isFinite then .ok x else .error .integerTooLarge
  | .float x => .ok x
  | other =>
    other.plainText.map fun s =>
      match Decimal.readLead? (trimStart s.toList) with
      | some (d, _) => d.nearest
      | none => .nan

/-- The default argument, or the value if it is missing. -/
def fallback (v : Value) (arguments : List Value) : Value :=
  match arguments with
  | .null :: _ | [] => v
  | default :: _ => default

/-- The first run of digits of a text. -/
def firstDigits (s : List Char) : List Char :=
  (s.dropWhile fun c => !isDigit c).takeWhile isDigit

/-- The first run of digits of a value as an integer. -/
def toInteger (v : Value) (arguments : List Value) : Except Fault Value := do
  let digits := firstDigits (← v.plainText).toList
  if digits.isEmpty then integerOf (fallback v arguments) else leadingInteger digits

/-- The signed decimal that a text begins with: a sign or none, and digits that may have a point
among or before them. -/
def signedDecimal? (s : List Char) : Option Decimal :=
  let (negative, body) := Decimal.readSign s
  let whole := body.takeWhile isDigit
  let part :=
    match body.dropWhile isDigit with
    | '.' :: after => after.takeWhile isDigit
    | _ => []
  if whole.isEmpty && part.isEmpty then none
  else some ⟨negative, Decimal.digitsValue (whole ++ part), -(part.length : Int)⟩

/-- The first signed decimal of a text. -/
def firstDecimal? : List Char → Option Decimal
  | [] => none
  | c :: rest =>
    match signedDecimal? (c :: rest) with
    | some d => some d
    | none => firstDecimal? rest

/-- The first signed decimal of a value as a double-precision number. -/
def toFloat (v : Value) (arguments : List Value) : Except Fault Value := do
  match firstDecimal? (← v.plainText).toList with
  | some d => return .float d.nearest
  | none => (floatOf (fallback v arguments)).map Value.float

/-- Whether a value is missing, false, empty, zero or not-a-number. -/
def isFalsy : Value → Bool
  | .null => true
  | .bool b => !b
  | .int n => n == 0
  | .float x => x.isZero || x.isNaN
  | .text s => s.isEmpty
  | _ => false

/-- Whether a value is neither missing, false, empty, zero nor not-a-number. -/
def toBool (v : Value) : Value :=
  .bool (!isFalsy v)

/-- The count of places that an argument asks for: two if it is missing. -/
def places (argument : Value) : Except Fault Nat :=
  match argument with
  | .bool _ => .error .placesMissing
  | other =>
    match Argument.integer? other with
    | .error f => .error f
    | .ok n =>
      let n := n.getD 2
      if n < 0 then .error .placesMissing
      else if n > 9223372036854775807 then .error .endlessPlaces
      else if n > 2147483647 then .error .tooManyPlaces
      else .ok n.toNat

/-- The leading decimal of a value with a fixed count of places; a value without one stays. -/
def number (v : Value) (arguments : List Value) : Except Fault Value :=
  match floatOf v with
  | .error f => .error f
  | .ok x =>
    if x.isNaN then .ok v
    else (places (arguments.getD 0 .null)).map fun n => .text (x.fixed n)

end Extraction.Filter
