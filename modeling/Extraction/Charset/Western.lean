/-!
# The Western table

Bytes from 128 to 159 stand for punctuation and letters of Western Europe in windows-1252. Five of
them are not assigned.

## Main definitions

* `Charset.westernCode?` : the code point of a byte between 128 and 159.
-/

namespace Extraction.Charset

/-- The code points of the bytes from 128 on; zero where none is assigned. -/
def westernCodes : List Nat := [
  0x20AC, 0, 0x201A, 0x0192, 0x201E, 0x2026, 0x2020, 0x2021,
  0x02C6, 0x2030, 0x0160, 0x2039, 0x0152, 0, 0x017D, 0,
  0, 0x2018, 0x2019, 0x201C, 0x201D, 0x2022, 0x2013, 0x2014,
  0x02DC, 0x2122, 0x0161, 0x203A, 0x0153, 0, 0x017E, 0x0178]

/-- The code point of a byte from 128 to 159, if one is assigned. -/
def westernCode? (n : Nat) : Option Nat :=
  if 128 ≤ n ∧ n < 160 then
    match westernCodes[n - 128]? with
    | some 0 | none => none
    | some code => some code
  else none

end Extraction.Charset
