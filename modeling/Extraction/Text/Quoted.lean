import Extraction.Text.PrintTable

/-!
# Quoted texts

The quoted form of a text is how messages cite it: between single quotes, or between double quotes
if it holds single quotes and no double ones. A backslash and the chosen quote are escaped, and so
is every character with no visible form: by letter (`\t`, `\n`, `\r`) or by code point in two, four
or eight hexadecimal digits.

## Main definitions

* `Text.quoted` : the quoted form of a text.
* `Text.quotedBytes` : the quoted form of a string of bytes.
-/

namespace Extraction.Text

/-- A hexadecimal digit, in lower case. -/
def hexDigit (n : Nat) : Char :=
  if n < 10 then Char.ofNat (48 + n) else Char.ofNat (87 + n)

/-- The last `width` hexadecimal digits of a number. -/
def hexDigits : Nat → Nat → List Char
  | 0, _ => []
  | width + 1, n => hexDigits width (n / 16) ++ [hexDigit (n % 16)]

/-- The quote that cites a text: double if the text holds single quotes only. -/
def chooseQuote (s : List Char) : Char :=
  if s.contains '\'' && !s.contains '"' then '"' else '\''

/-- Whether a character has no visible form. -/
def isHidden (c : Char) : Bool :=
  hiddenRanges.contains c

/-- The escape of a character by its code point, in the fewest digits that hold it. -/
def codeEscape (n : Nat) : List Char :=
  if n < 0x100 then '\\' :: 'x' :: hexDigits 2 n
  else if n < 0x10000 then '\\' :: 'u' :: hexDigits 4 n
  else '\\' :: 'U' :: hexDigits 8 n

/-- A character as it stands between quotes. -/
def quotedChar (quote c : Char) : List Char :=
  if c = quote || c = '\\' then ['\\', c]
  else if c = '\t' then ['\\', 't']
  else if c = '\n' then ['\\', 'n']
  else if c = '\r' then ['\\', 'r']
  else if isHidden c then codeEscape c.toNat
  else [c]

/-- The quoted form of a text. -/
def quotedChars (s : List Char) : List Char :=
  let quote := chooseQuote s
  quote :: s.flatMap (quotedChar quote) ++ [quote]

/-- The quoted form of a string. -/
def quoted (s : String) : String :=
  String.ofList (quotedChars s.toList)

/-- A byte as it stands between quotes: by itself if it is visible ASCII. -/
def quotedByte (quote : Char) (b : UInt8) : List Char :=
  let c := Char.ofNat b.toNat
  if c = quote || c = '\\' then ['\\', c]
  else if c = '\t' then ['\\', 't']
  else if c = '\n' then ['\\', 'n']
  else if c = '\r' then ['\\', 'r']
  else if b < 0x20 || b ≥ 0x7F then '\\' :: 'x' :: hexDigits 2 b.toNat
  else [c]

/-- The quoted form of a string of bytes, marked with a leading `b`. -/
def quotedBytes (bs : List UInt8) : String :=
  let quote := chooseQuote (bs.map fun b => Char.ofNat b.toNat)
  String.ofList ('b' :: quote :: bs.flatMap (quotedByte quote) ++ [quote])

end Extraction.Text
