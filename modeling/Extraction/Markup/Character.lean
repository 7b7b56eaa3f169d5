import Extraction.Charset.Western
import Extraction.Markup.CharacterTable
import Extraction.Number.Integer
import Extraction.Text.Search
import Extraction.Text.Word

/-!
# Character references

A character of markup may be written as a reference: an ampersand and the name of the character, or
its code point as a number. A reference ends with a semicolon; for some names, and for numbers, it
may be missing.

## Main definitions

* `Markup.NamedCharacter`, `Markup.namedCharacters` : the names of characters.
* `Markup.characterOf?`, `Markup.longestBare?` : the characters of a name.
* `Markup.Numeral`, `Markup.readNumeral?` : the number of a reference.
* `Markup.unescape` : a text with its references replaced, or the fault of a number that has too
  many digits.
-/

namespace Extraction.Markup

open Text

/-- A name for one or two characters. -/
structure NamedCharacter where
  /-- The name. -/
  name : List Char
  /-- The characters. -/
  chars : List Char
  /-- Whether the name counts without a semicolon after it. -/
  bare : Bool
  deriving Repr

/-- The value of a hexadecimal digit. -/
def hexValue? (c : Char) : Option Nat :=
  if '0' ≤ c ∧ c ≤ '9' then some (c.toNat - '0'.toNat)
  else if 'a' ≤ c ∧ c ≤ 'f' then some (c.toNat - 'a'.toNat + 10)
  else if 'A' ≤ c ∧ c ≤ 'F' then some (c.toNat - 'A'.toNat + 10)
  else none

/-- Whether a character is a hexadecimal digit. -/
def isHexDigit (c : Char) : Bool :=
  (hexValue? c).isSome

/-- The number that hexadecimal digits write. -/
def hexNumber (ds : List Char) : Nat :=
  ds.foldl (fun n c => 16 * n + (hexValue? c).getD 0) 0

/-- A name of the table. -/
def readNamed (word : List Char) : NamedCharacter :=
  let name := word.takeWhile fun c => c ≠ '=' && c ≠ '!'
  let rest := word.dropWhile fun c => c ≠ '=' && c ≠ '!'
  ⟨name, (splitOn ['+'] (rest.drop 1)).map fun ds => Char.ofNat (hexNumber ds),
    rest.head? == some '!'⟩

/-- The names of characters. -/
def namedCharacters : List NamedCharacter :=
  characterLines.flatMap fun line => (splitOn [' '] line.toList).map readNamed

/-- The characters of a name. -/
def characterOf? (name : List Char) : Option (List Char) :=
  (namedCharacters.find? fun n => n.name == name).map NamedCharacter.chars

/-- The characters of a name that counts without a semicolon. -/
def bareCharacterOf? (name : List Char) : Option (List Char) :=
  (namedCharacters.find? fun n => n.bare && n.name == name).map NamedCharacter.chars

/-- The characters of the longest name that counts without a semicolon and has at most `n` of the
first characters of a text, and what follows it. -/
def longestBare? (s : List Char) : Nat → Option (List Char × List Char)
  | 0 => none
  | n + 1 =>
    match bareCharacterOf? (s.take (n + 1)) with
    | some cs => some (cs, s.drop (n + 1))
    | none => longestBare? s n

/-- A number as a reference writes it. -/
structure Numeral where
  /-- The digits. -/
  digits : List Char
  /-- Whether the digits are hexadecimal. -/
  hex : Bool
  deriving Repr

/-- The number that a numeral writes. -/
def Numeral.value (n : Numeral) : Nat :=
  if n.hex then hexNumber n.digits else Decimal.digitsValue n.digits

/-- The number that a numeral writes, for a reader that reads decimal digits as integers are read:
too many of them are a fault. -/
def Numeral.read (n : Numeral) : Except Fault Nat :=
  if n.hex then .ok (hexNumber n.digits) else Integer.ofDigits n.digits

/-- The number after the number sign of a reference: whether there is a semicolon, and what
follows. -/
def readNumeral? (s : List Char) : Option (Numeral × Bool × List Char) :=
  let finish (n : Numeral) (rest : List Char) : Option (Numeral × Bool × List Char) :=
    match rest with
    | ';' :: after => some (n, true, after)
    | _ => some (n, false, rest)
  match s with
  | 'x' :: rest | 'X' :: rest =>
    let ds := rest.takeWhile isHexDigit
    if ds.isEmpty then none else finish ⟨ds, true⟩ (rest.dropWhile isHexDigit)
  | _ =>
    let ds := s.takeWhile isAsciiDigit
    if ds.isEmpty then none else finish ⟨ds, false⟩ (s.dropWhile isAsciiDigit)

/-- Whether a number is the code point of a character. -/
def isCodePoint (n : Nat) : Bool :=
  n < 0xD800 || (0xDFFF < n && n ≤ 0x10FFFF)

/-- Whether a code point stands for no character of texts. -/
def isControlCode (n : Nat) : Bool :=
  (1 ≤ n && n ≤ 8) || n == 0xB || (0xE ≤ n && n ≤ 0x1F) || (0x7F ≤ n && n ≤ 0x9F) ||
    (0xFDD0 ≤ n && n ≤ 0xFDEF) || n % 0x10000 == 0xFFFE || n % 0x10000 == 0xFFFF

/-- The character that stands for one that cannot be read. -/
def unreadable : Char := Char.ofNat 0xFFFD

/-- The characters of a number in an attribute: those from 128 to 159 are taken from the Western
table, and control codes are dropped. -/
def numberedChars (n : Nat) : List Char :=
  if n = 0 then [unreadable]
  else if n = 13 then ['\r']
  else if 128 ≤ n ∧ n < 160 then [Char.ofNat ((Charset.westernCode? n).getD n)]
  else if !isCodePoint n then [unreadable]
  else if isControlCode n then []
  else [Char.ofNat n]

/-- Whether a character may stand in the name of a reference in an attribute. -/
def isReferenceChar (c : Char) : Bool :=
  !(['\t', '\n', '\x0c', ' ', '<', '&', '#', ';'].contains c)

/-- The characters of the reference after an ampersand, and what follows it. -/
def readReference (s : List Char) : Reading (List Char × List Char) :=
  match s with
  | '#' :: rest => do
    let (numeral, _, after) ← readNumeral? rest
    let n ← (numeral.read : Except Fault Nat)
    return (numberedChars n, after)
  | _ => do
    let name := (s.takeWhile isReferenceChar).take 32
    if name.isEmpty then failure
    let after := s.drop name.length
    let whole := if after.head? = some ';' then characterOf? name else none
    match whole with
    | some cs => return (cs, after.drop 1)
    | none =>
      match bareCharacterOf? name with
      | some cs => return (cs, after)
      | none => longestBare? s (name.length - (if after.head? = some ';' then 0 else 1))

/-- A text with its references replaced: `fuel` bounds its length. -/
def unescapeFrom : Nat → List Char → Except Fault (List Char)
  | 0, s => return s
  | _, [] => return []
  | fuel + 1, '&' :: rest => do
    match ← (readReference rest).run with
    | some (cs, after) => return cs ++ (← unescapeFrom fuel after)
    | none => return '&' :: (← unescapeFrom fuel rest)
  | fuel + 1, c :: rest => return c :: (← unescapeFrom fuel rest)

/-- A text with its references replaced. An ampersand that begins no reference stays. -/
def unescape (s : List Char) : Except Fault (List Char) :=
  unescapeFrom s.length s

end Extraction.Markup
