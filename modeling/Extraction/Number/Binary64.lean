import Extraction.Number.Power

/-!
# Double-precision numbers in exact arithmetic

A double-precision number is not-a-number, an infinity, or a sign with a natural mantissa below
`2 ^ 53` and a binary exponent. Every operation is computed exactly on quotients of natural numbers
and rounded once, to the nearest number and on a tie to the even mantissa.

Normal form: the exponent is at least `-1074`, and the mantissa is at least `2 ^ 52` unless the
exponent is `-1074`. So equal numbers other than the two zeros are equal as terms.

## Main definitions

* `Binary64` : the type of double-precision numbers.
* `Binary64.ofRatio` : the number nearest to a quotient.
* `Binary64.add`, `Binary64.mul`, `Binary64.div` : the rounded operations.
* `Binary64.compare?` : the order of numbers; not-a-number is compared with nothing.
* `Binary64.floor?`, `Binary64.truncate?` : the integer below, and the integer towards zero.
-/

namespace Extraction

/-- A double-precision number. -/
inductive Binary64 where
  | nan
  | infinite (negative : Bool)
  | finite (negative : Bool) (mantissa : Nat) (exponent : Int)
  deriving DecidableEq, Inhabited, Repr

namespace Binary64

/-- The least exponent. -/
def minExponent : Int := -1074

/-- The greatest exponent. -/
def maxExponent : Int := 971

/-- The zero of the given sign. -/
def signedZero (negative : Bool) : Binary64 :=
  .finite negative 0 minExponent

/-- A quotient rounded to the nearest natural number, a tie to the even one. -/
def roundDiv (num den : Nat) : Nat :=
  let q := num / den
  let r := num % den
  if 2 * r < den then q
  else if 2 * r > den then q + 1
  else if q % 2 = 0 then q
  else q + 1

/-- The quotient `num / den / 2 ^ e` as numerator and denominator. -/
def scaled (num den : Nat) (e : Int) : Nat × Nat :=
  if e < 0 then (num * twoTo (-e).toNat, den) else (num, den * twoTo e.toNat)

/-- The binary logarithm of a positive quotient, rounded down. -/
def logRatio (num den : Nat) : Int :=
  let guess : Int := num.log2 - den.log2
  let (n, d) := scaled num den guess
  if n < d then guess - 1 else guess

/-- The finite number with the given parts, or an infinity if the exponent is too large. -/
def pack (negative : Bool) (mantissa : Nat) (exponent : Int) : Binary64 :=
  if mantissa < twoTo 53 then
    if exponent > maxExponent then .infinite negative else .finite negative mantissa exponent
  else if exponent + 1 > maxExponent then .infinite negative
  else .finite negative (twoTo 52) (exponent + 1)

/-- The number nearest to a quotient. -/
def ofRatio (negative : Bool) (num den : Nat) : Binary64 :=
  if num = 0 then signedZero negative
  else
    let e := max (logRatio num den - 52) minExponent
    let (n, d) := scaled num den e
    pack negative (roundDiv n d) e

/-- The magnitude of a finite number as numerator and denominator. -/
def magnitude (mantissa : Nat) (exponent : Int) : Nat × Nat :=
  if exponent < 0 then (mantissa, twoTo (-exponent).toNat) else (mantissa * twoTo exponent.toNat, 1)

/-- The number nearest to an integer. -/
def ofInt (n : Int) : Binary64 :=
  ofRatio (n < 0) n.natAbs 1

/-- Whether a number is not-a-number. -/
def isNaN : Binary64 → Bool
  | .nan => true
  | _ => false

/-- Whether a number is neither infinite nor not-a-number. -/
def isFinite : Binary64 → Bool
  | .finite .. => true
  | _ => false

/-- Whether a number is one of the two zeros. -/
def isZero : Binary64 → Bool
  | .finite _ m _ => m == 0
  | _ => false

/-- The sign and the magnitude of a finite number as an integer over a natural number. -/
def toRatio? : Binary64 → Option (Int × Nat)
  | .finite negative m e =>
    let (n, d) := magnitude m e
    some (if negative then -(n : Int) else n, d)
  | _ => none

/-- The number nearest to an integer over a natural number; `negative` is the sign of a zero. -/
def ofSignedRatio (negative : Bool) (num : Int) (den : Nat) : Binary64 :=
  ofRatio (if num = 0 then negative else num < 0) num.natAbs den

/-- The sum of two numbers. -/
def add : Binary64 → Binary64 → Binary64
  | .nan, _ => .nan
  | _, .nan => .nan
  | .infinite a, .infinite b => if a = b then .infinite a else .nan
  | .infinite a, _ => .infinite a
  | _, .infinite b => .infinite b
  | .finite s m e, .finite t n f =>
    let (mn, md) := magnitude m e
    let (nn, nd) := magnitude n f
    let left : Int := if s then -((mn * nd : Nat) : Int) else ((mn * nd : Nat) : Int)
    let right : Int := if t then -((nn * md : Nat) : Int) else ((nn * md : Nat) : Int)
    ofSignedRatio (s && t) (left + right) (md * nd)

/-- The product of two numbers. -/
def mul : Binary64 → Binary64 → Binary64
  | .nan, _ => .nan
  | _, .nan => .nan
  | .infinite a, .infinite b => .infinite (a != b)
  | .infinite a, .finite t n _ => if n = 0 then .nan else .infinite (a != t)
  | .finite s m _, .infinite b => if m = 0 then .nan else .infinite (s != b)
  | .finite s m e, .finite t n f =>
    let (mn, md) := magnitude m e
    let (nn, nd) := magnitude n f
    ofRatio (s != t) (mn * nn) (md * nd)

/-- The quotient of a number by a positive natural number. -/
def divNat (x : Binary64) (n : Nat) : Binary64 :=
  match x with
  | .finite s m e =>
    let (num, den) := magnitude m e
    ofRatio s num (den * n)
  | other => other

/-- The greatest integer that is not above a finite number. -/
def floor? (x : Binary64) : Option Int :=
  x.toRatio?.map fun (n, d) => n.fdiv d

/-- The integer between zero and a finite number that is nearest to the number. -/
def truncate? (x : Binary64) : Option Int :=
  x.toRatio?.map fun (n, d) => n.tdiv d

/-- The order of a finite or infinite number and an integer. -/
def compareInt? (x : Binary64) (n : Int) : Option Ordering :=
  match x with
  | .nan => none
  | .infinite negative => some (if negative then .lt else .gt)
  | .finite s m e =>
    let (num, den) := magnitude m e
    some (compare (if s then -(num : Int) else num) (n * den))

/-- The order of two numbers; there is none if one of them is not-a-number. -/
def compare? : Binary64 → Binary64 → Option Ordering
  | .nan, _ => none
  | _, .nan => none
  | .infinite a, .infinite b => some (compare b.toNat a.toNat)
  | .infinite a, .finite .. => some (if a then .lt else .gt)
  | .finite .., .infinite b => some (if b then .gt else .lt)
  | .finite s m e, .finite t n f =>
    let (mn, md) := magnitude m e
    let (nn, nd) := magnitude n f
    let left : Int := if s then -((mn * nd : Nat) : Int) else ((mn * nd : Nat) : Int)
    let right : Int := if t then -((nn * md : Nat) : Int) else ((nn * md : Nat) : Int)
    some (compare left right)

/-- Whether two numbers are equal; the two zeros are, and not-a-number is equal to nothing. -/
def equal (x y : Binary64) : Bool :=
  compare? x y == some .eq

end Binary64

end Extraction
