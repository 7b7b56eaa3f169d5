/-!
# Tables of characters in rows

Encodings with two bytes for a character have tables of rows: the first byte chooses the row, and
the second one the place in it. A dot stands where there is no character, and rows end with their
last character.

## Main definitions

* `Charset.inRows?` : the character at a place of a row.
-/

namespace Extraction.Charset

/-- The character at a place of a row. -/
def inRow? (row : String) (place : Nat) : Option Char :=
  match row.toList[place]? with
  | some c => if c = '.' then none else some c
  | none => none

/-- The character at a place of one of several rows. -/
def inRows? (rows : List String) (row place : Nat) : Option Char :=
  (rows[row]?).bind fun r => inRow? r place

/-- The character of a code in runs of codes with consecutive characters: the first code of a run,
its character and the length. -/
def inRuns? (runs : List (Nat × Nat × Nat)) (code : Nat) : Option Char :=
  (runs.find? fun (first, _, length) => first ≤ code && code < first + length).map
    fun (first, character, _) => Char.ofNat (character + (code - first))

/-- The place of a second byte in rows that leave out the byte 127. -/
def placeAround127 (second : Nat) : Nat :=
  if second < 127 then second - 64 else second - 65

end Extraction.Charset
