import Extraction.Text.Ranges

/-!
# Blank characters and trimming

A blank is a character that separates words: the ASCII spaces, the four information separators,
the next-line control and the space separators of every script. Trimming removes blanks from the
two ends of a text.

## Main definitions

* `Text.isBlank` : whether a character is a blank.
* `Text.trimStart`, `Text.trimEnd`, `Text.trim` : remove blanks from the ends of a text.
-/

namespace Extraction.Text

/-- The intervals of blanks. -/
def blankRanges : Ranges := ⟨
  [(0x9, 0xD), (0x1C, 0x20), (0x85, 0x85), (0xA0, 0xA0), (0x1680, 0x1680), (0x2000, 0x200A),
   (0x2028, 0x2029), (0x202F, 0x202F), (0x205F, 0x205F), (0x3000, 0x3000)]⟩

/-- Whether a character separates words. -/
def isBlank (c : Char) : Bool :=
  blankRanges.contains c

/-- A text without its leading blanks. -/
def trimStart (s : List Char) : List Char :=
  s.dropWhile isBlank

/-- A text without its trailing blanks. -/
def trimEnd (s : List Char) : List Char :=
  (s.reverse.dropWhile isBlank).reverse

/-- A text without the blanks at its two ends. -/
def trim (s : List Char) : List Char :=
  trimEnd (trimStart s)

/-- A string without the blanks at its two ends. -/
def trimmed (s : String) : String :=
  String.ofList (trim s.toList)

/-- Whether a text holds nothing but blanks. -/
def allBlank (s : List Char) : Bool :=
  s.all isBlank

end Extraction.Text
