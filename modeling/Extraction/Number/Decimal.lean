import Extraction.Number.Binary64
import Extraction.Text.Word

/-!
# Decimal texts of double-precision numbers

A number is read from decimal digits as the double-precision number nearest to their exact value.
It is written in two ways. The shortest form has the fewest digits that read back as the number,
and of those the nearest to it; it is positional if the first digit stands between the fourth place
after the point and the sixteenth place before it, and has an exponent of at least two digits
otherwise. The fixed form has a given number of places and rounds the exact value, a tie to the
even digit.

## Main definitions

* `Decimal` : a sign, the digits of a natural number and a power of ten.
* `Decimal.nearest` : the double-precision number nearest to a decimal.
* `Decimal.read?` : the decimal that a text writes.
* `Decimal.shortest` : the fewest digits that read back as a given number.
* `Binary64.written` : the shortest form of a number.
* `Binary64.fixed` : the fixed form of a number.
-/

namespace Extraction

/-- The number `± coefficient * 10 ^ exponent`. -/
structure Decimal where
  /-- Whether the sign is a minus. -/
  negative : Bool
  /-- The digits, read as a natural number. -/
  coefficient : Nat
  /-- The power of ten. -/
  exponent : Int
  deriving DecidableEq, Repr

namespace Decimal

/-- The decimal digits of a natural number. -/
def digitChars (n : Nat) : List Char :=
  Nat.toDigits 10 n

/-- How many decimal digits a natural number has. -/
def digitCount (n : Nat) : Nat :=
  (digitChars n).length

/-- The double-precision number nearest to a decimal. Powers of ten far outside the range are cut
short: the result is an infinity or a zero whatever their exact value. -/
def nearest (d : Decimal) : Binary64 :=
  if d.coefficient = 0 then Binary64.signedZero d.negative
  else
    let place : Int := d.exponent + digitCount d.coefficient
    if place > 400 then .infinite d.negative
    else if place < -400 then Binary64.signedZero d.negative
    else if d.exponent < 0 then
      Binary64.ofRatio d.negative d.coefficient (tenTo (-d.exponent).toNat)
    else Binary64.ofRatio d.negative (d.coefficient * tenTo d.exponent.toNat) 1

/-- The natural number that a list of digits of any script writes. -/
def digitsValue (ds : List Char) : Nat :=
  ds.foldl (fun n c => n * 10 + (Text.digitValue? c).getD 0) 0

/-- The sign that a text starts with, and what follows it. -/
def readSign : List Char → Bool × List Char
  | '-' :: rest => (true, rest)
  | '+' :: rest => (false, rest)
  | rest => (false, rest)

/-- The exponent that a text starts with, if it is `e`, a sign or none, and digits. -/
def readExponent? : List Char → Option (Int × List Char)
  | c :: rest =>
    if c = 'e' || c = 'E' then
      let (negative, body) := readSign rest
      let ds := body.takeWhile Text.isDigit
      if ds.isEmpty then none
      else
        let n : Int := digitsValue ds
        some (if negative then -n else n, body.dropWhile Text.isDigit)
    else none
  | [] => none

/-- The decimal that a text starts with and what follows it: a sign or none, digits with a point
among, before or after them, and an exponent or none. -/
def readLead? (s : List Char) : Option (Decimal × List Char) :=
  let (negative, body) := readSign s
  let whole := body.takeWhile Text.isDigit
  let rest := body.dropWhile Text.isDigit
  let (places, rest) :=
    match rest with
    | '.' :: after => (after.takeWhile Text.isDigit, after.dropWhile Text.isDigit)
    | _ => ([], rest)
  if whole.isEmpty && places.isEmpty then none
  else
    let (power, rest) := (readExponent? rest).getD (0, rest)
    some (⟨negative, digitsValue (whole ++ places), power - places.length⟩, rest)

/-- The decimal that a whole text writes. -/
def read? (s : List Char) : Option Decimal :=
  match readLead? s with
  | some (d, []) => some d
  | _ => none

/-- The place of the first digit of a positive quotient: the least `k` with `num / den < 10 ^ k`. -/
def firstPlace (num den : Nat) : Int :=
  if den ≤ num then digitCount (num / den)
  else
    let guess := (den.log2 - num.log2) * 30103 / 100000 - 1
    let rec climb : Nat → Nat → Int
      | 0, j => -(j : Int)
      | fuel + 1, j => if num * tenTo (j + 1) ≥ den then -(j : Int) else climb fuel (j + 1)
    climb 4 guess

/-- The quotient `num / den / 10 ^ e`, rounded down, and whether it is exact. -/
def gridBelow (num den : Nat) (e : Int) : Nat × Bool :=
  let (n, d) := if e < 0 then (num * tenTo (-e).toNat, den) else (num, den * tenTo e.toNat)
  (n / d, n % d == 0)

/-- Whether the upper of two neighbours on a decimal grid is nearer to the quotient `num / den`
than the lower one, which is `below * 10 ^ e`; on a tie, whether the upper one is even. -/
def upperIsNearer (num den below : Nat) (e : Int) : Bool :=
  let (n, d) := if e < 0 then (num * tenTo (-e).toNat, den) else (num, den * tenTo e.toNat)
  let twice := 2 * (n - below * d)
  if twice = d then below % 2 == 1 else decide (twice > d)

/-- The decimal on the grid `10 ^ e` that reads back as `x` and is nearest to it, if there is one:
`num / den` is the magnitude of `x`. -/
def onGrid? (x : Binary64) (num den : Nat) (e : Int) : Option Decimal :=
  let (below, _) := gridBelow num den e
  let low : Decimal := ⟨false, below, e⟩
  let high : Decimal := ⟨false, below + 1, e⟩
  match low.nearest == x, high.nearest == x with
  | true, true => some (if upperIsNearer num den below e then high else low)
  | true, false => some low
  | false, true => some high
  | false, false => none

/-- The fewest digits that read back as the positive number `x`, and of those the nearest. -/
def shortest (x : Binary64) (num den : Nat) : Decimal :=
  let place := firstPlace num den
  let rec search : Nat → Int → Decimal
    | 0, e => ⟨false, (gridBelow num den e).1, e⟩
    | fuel + 1, e => (onGrid? x num den e).getD (search fuel (e - 1))
  search 17 (place - 1)

/-- The digits of a decimal without trailing zeros, and the place of the point among them. -/
def significant (d : Decimal) : List Char × Int :=
  let ds := digitChars d.coefficient
  (((ds.reverse.dropWhile (· == '0')).reverse), d.exponent + ds.length)

/-- Digits as a positional text, the point after `place` of them. -/
def positional (ds : List Char) (place : Int) : List Char :=
  if place ≤ 0 then '0' :: '.' :: List.replicate (-place).toNat '0' ++ ds
  else
    let n := place.toNat
    let whole := ds.take n ++ List.replicate (n - ds.length) '0'
    let part := ds.drop n
    whole ++ '.' :: (if part.isEmpty then ['0'] else part)

/-- Digits as a text with an exponent of at least two digits. -/
def scientific (ds : List Char) (place : Int) : List Char :=
  let power := place - 1
  let lead :=
    match ds with
    | [] => ['0']
    | [d] => [d]
    | d :: rest => d :: '.' :: rest
  let exponentDigits := digitChars power.natAbs
  lead ++ 'e' :: (if power < 0 then '-' else '+') ::
    (List.replicate (2 - exponentDigits.length) '0' ++ exponentDigits)

end Decimal

namespace Binary64

/-- The shortest form of a number. -/
def written : Binary64 → String
  | .nan => "nan"
  | .infinite negative => if negative then "-inf" else "inf"
  | .finite negative m e =>
    let body :=
      if m = 0 then ['0', '.', '0']
      else
        let (num, den) := magnitude m e
        let (ds, place) := (Decimal.shortest (.finite false m e) num den).significant
        if -4 < place && place ≤ 16 then Decimal.positional ds place
        else Decimal.scientific ds place
    String.ofList (if negative then '-' :: body else body)

/-- The form of a number with a fixed count of places. -/
def fixed (x : Binary64) (places : Nat) : String :=
  match x with
  | .nan => "nan"
  | .infinite negative => if negative then "-inf" else "inf"
  | .finite negative m e =>
    let (num, den) := magnitude m e
    let ds := Decimal.digitChars (roundDiv (num * tenTo places) den)
    let padded := List.replicate (places + 1 - ds.length) '0' ++ ds
    let whole := padded.take (padded.length - places)
    let part := padded.drop (padded.length - places)
    let body := if places = 0 then whole else whole ++ '.' :: part
    String.ofList (if negative then '-' :: body else body)

/-- The number that a text writes. -/
def read? (s : List Char) : Option Binary64 :=
  (Decimal.read? s).map Decimal.nearest

end Binary64

end Extraction
