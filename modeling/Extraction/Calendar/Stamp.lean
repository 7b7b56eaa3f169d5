import Extraction.Calendar.Moment
import Extraction.Value

/-!
# Time stamps

A time stamp is a number of milliseconds since the start of 1970 in universal time. It is divided
by a thousand as a double-precision number, and the fraction of a second is rounded to a
microsecond, a tie to the even one.

## Main definitions

* `Calendar.ofMillis?` : the moment of a time stamp.
-/

namespace Extraction.Calendar

/-- The number of the first day of 1970. -/
def epochDay : Int := 719163

/-- The number of the last day of the year 9999. -/
def lastDay : Int := 3652059

/-- The moment a number of seconds and microseconds after the start of 1970. -/
def ofSeconds? (seconds : Int) (micros : Nat) : Option Moment :=
  let day := epochDay + seconds.fdiv 86400
  if day < 1 || day > lastDay then none
  else
    let rest := (seconds.fmod 86400).toNat
    let (year, month, dayOfMonth) := ofDayNumber day.toNat
    some ⟨year, month, dayOfMonth, rest / 3600, rest / 60 % 60, rest % 60, micros,
      some .universal⟩

/-- An integer rounded from a quotient, a tie to the even one. -/
def roundSigned (num : Int) (den : Nat) : Int :=
  let n : Int := Binary64.roundDiv num.natAbs den
  if num < 0 then -n else n

/-- The moment of a number of seconds. -/
def ofSecondsFloat? (x : Binary64) : Option Moment := do
  let (num, den) ← x.toRatio?
  let whole := num.tdiv den
  let fraction := num - whole * den
  let product := Binary64.ofSignedRatio false (fraction * 1000000) den
  let (pn, pd) ← product.toRatio?
  let micros := roundSigned pn pd
  if micros ≥ 1000000 then ofSeconds? (whole + 1) (micros - 1000000).toNat
  else if micros < 0 then ofSeconds? (whole - 1) (micros + 1000000).toNat
  else ofSeconds? whole micros.toNat

/-- The moment of a time stamp. -/
def ofMillis? : Value.Number → Option Moment
  | .int n => ofSecondsFloat? (Binary64.ofSignedRatio false n 1000)
  | .float x => ofSecondsFloat? (x.divNat 1000)

end Extraction.Calendar
