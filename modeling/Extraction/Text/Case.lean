import Extraction.Text.CaseTable

/-!
# Upper and lower case

The case maps of single characters and of whole texts. A text's upper form replaces each character
by its upper form, which may have several characters. The lower form does the same, apart from
the capital sigma, which becomes a final sigma at the end of a word: when a letter with case stands
before it and none after it, characters that the search skips aside.

## Main definitions

* `Text.upper`, `Text.lower` : the case maps of texts.
* `Text.capitalize` : the first character raised and the rest lowered.
* `Text.simpleLower` : the one-to-one lower map of characters.
-/

namespace Extraction.Text

/-- The shift of the first run that holds a code point. -/
def shiftIn : List (Nat × Nat × Nat × Int) → Nat → Option Int
  | [], _ => none
  | (first, last, step, shift) :: rest, n =>
    if first ≤ n && n ≤ last && (n - first) % step == 0 then some shift
    else if n < first then none
    else shiftIn rest n

/-- The character that a list of runs maps a character to. -/
def shiftChar (runs : List (Nat × Nat × Nat × Int)) (c : Char) : Char :=
  match shiftIn runs c.toNat with
  | some d => Char.ofNat (c.toNat + d).toNat
  | none => c

/-- The lower form that has one character. The dotted capital i is paired with the plain one. -/
def simpleLower (c : Char) : Char :=
  if c.toNat = 0x130 then 'i' else shiftChar lowerRuns c

/-- The upper form of a character. -/
def upperChars (c : Char) : List Char :=
  match upperMany.lookup c.toNat with
  | some cs => cs.map Char.ofNat
  | none => [shiftChar upperRuns c]

/-- The lower form of a character that is not a final sigma. -/
def lowerChars (c : Char) : List Char :=
  match lowerMany.lookup c.toNat with
  | some cs => cs.map Char.ofNat
  | none => [shiftChar lowerRuns c]

/-- Whether the first character that the search for a letter with case does not skip is one. -/
def leadsCased (s : List Char) : Bool :=
  match s.dropWhile caseIgnorableRanges.contains with
  | c :: _ => casedRanges.contains c
  | [] => false

/-- The lower form of a text, given the reversed text before it. -/
def lowerAfter : List Char → List Char → List Char
  | _, [] => []
  | before, c :: rest =>
    (if c = 'Σ' then [if leadsCased before && !leadsCased rest then 'ς' else 'σ']
      else lowerChars c) ++ lowerAfter (c :: before) rest

/-- The upper form of a text. -/
def upper (s : List Char) : List Char :=
  s.flatMap upperChars

/-- The lower form of a text. -/
def lower (s : List Char) : List Char :=
  lowerAfter [] s

/-- The first character raised and the rest lowered. -/
def capitalize : List Char → List Char
  | [] => []
  | c :: rest => upperChars c ++ lower rest

/-- The upper form of a string. -/
def upperString (s : String) : String :=
  String.ofList (upper s.toList)

/-- The lower form of a string. -/
def lowerString (s : String) : String :=
  String.ofList (lower s.toList)

/-- The lower form of an ASCII letter; other characters stay as they are. -/
def asciiLower (c : Char) : Char :=
  if 'A' ≤ c && c ≤ 'Z' then Char.ofNat (c.toNat + 32) else c

/-- A string with its ASCII letters lowered. -/
def asciiLowerString (s : String) : String :=
  String.ofList (s.toList.map asciiLower)

end Extraction.Text
