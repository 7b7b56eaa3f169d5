import Extraction.Value

/-!
# Writing JSON

Every item of a list and every member of an object stands on a line of its own, two blanks further
in than what it belongs to. Characters beyond ASCII stand for themselves. A moment is written in its
standard form, and a value that JSON does not have as the text that stands for it.

## Main definitions

* `Json.write` : a value as JSON.
-/

namespace Extraction.Json

/-- A character within quotes. -/
def writeChar (c : Char) : List Char :=
  match c with
  | '"' => ['\\', '"']
  | '\\' => ['\\', '\\']
  | '\n' => ['\\', 'n']
  | '\r' => ['\\', 'r']
  | '\t' => ['\\', 't']
  | '\x08' => ['\\', 'b']
  | '\x0c' => ['\\', 'f']
  | c => if c.toNat < 0x20 then '\\' :: 'u' :: Text.hexDigits 4 c.toNat else [c]

/-- A text in quotes. -/
def writeText (s : String) : String :=
  String.ofList ('"' :: (s.toList.flatMap writeChar ++ ['"']))

/-- A number. -/
def writeFloat : Binary64 → String
  | .nan => "NaN"
  | .infinite negative => if negative then "-Infinity" else "Infinity"
  | x => x.written

/-- The start of a line that is so many steps in. -/
def lineStart (depth : Nat) : String :=
  "\n" ++ String.ofList (List.replicate (2 * depth) ' ')

/-- Parts on lines of their own between two marks. -/
def writeParts (opening closing : String) (depth : Nat) : List String → String
  | [] => opening ++ closing
  | parts =>
    opening ++ lineStart (depth + 1) ++ ("," ++ lineStart (depth + 1)).intercalate parts ++
      lineStart depth ++ closing

mutual

/-- A value that is so many steps in. -/
def writeAt (depth : Nat) : Value → String
  | .null => "null"
  | .bool b => if b then "true" else "false"
  | .int n => toString n
  | .float x => writeFloat x
  | .text s => writeText s
  | .moment m => writeText m.iso
  | .list items => writeParts "[" "]" depth (writeItems (depth + 1) items)
  | .tuple items => writeParts "[" "]" depth (writeItems (depth + 1) items)
  | .map entries => writeParts "\x7b" "\x7d" depth (writeMembers (depth + 1) entries)
  | other => writeText other.written

/-- The items of a list. -/
def writeItems (depth : Nat) : List Value → List String
  | [] => []
  | v :: rest => writeAt depth v :: writeItems depth rest

/-- The members of an object. -/
def writeMembers (depth : Nat) : List (Value × Value) → List String
  | [] => []
  | (k, v) :: rest =>
    (writeText k.written ++ ": " ++ writeAt depth v) :: writeMembers depth rest

end

/-- A value as JSON. -/
def write (v : Value) : String :=
  writeAt 0 v

end Extraction.Json
