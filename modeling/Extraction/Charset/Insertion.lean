import Extraction.Charset.Encoding
import Extraction.Fault

/-!
# Characters put into a text of ASCII

One encoding writes any text with the letters, the digits and the hyphen of ASCII. Before the last
hyphen stand the characters of ASCII. After it numbers tell at which places the other characters are
put in, from the least code point upwards. A number has digits of 36 kinds, the least of them first,
and ends with a digit below a threshold, which depends on the numbers before it.

What is unreadable before the last hyphen is replaced. After it, reading ends where there is no
number, and bytes that are none of ASCII are refused.

## Main definitions

* `Charset.Insertion.readNumber?` : the number at the start of a text.
* `Charset.Insertion.Progress` : how far a text has been put together.
* `Charset.Insertion.read` : bytes as text.
-/

namespace Extraction.Charset.Insertion

/-- The threshold below which a digit is the last one of its number, for a position in the number. -/
def threshold (bias position : Nat) : Nat :=
  max 1 (min 26 (36 * (position + 1) - bias))

/-- What a character counts as a digit. -/
def digit? (c : Char) : Option Nat :=
  if 'A' ≤ c ∧ c ≤ 'Z' then some (c.toNat - 65)
  else if 'a' ≤ c ∧ c ≤ 'z' then some (c.toNat - 97)
  else if '0' ≤ c ∧ c ≤ '9' then some (c.toNat - 22)
  else none

/-- The number whose digits, from a position on, a text begins with, and what follows it. The weight
is that of the first digit. -/
def readNumber? (bias position weight : Nat) : List Char → Option (Nat × List Char)
  | [] => none
  | c :: rest =>
    match digit? c with
    | none => none
    | some d =>
      let t := threshold bias position
      if d < t then some (d * weight, rest)
      else
        (readNumber? bias (position + 1) (weight * (36 - t)) rest).map fun (n, after) =>
          (d * weight + n, after)

theorem length_of_readNumber? {bias position weight n : Nat} {s rest : List Char}
    (h : readNumber? bias position weight s = some (n, rest)) : rest.length < s.length := by
  induction s generalizing position weight n with
  | nil => cases h
  | cons c s ih =>
    rw [readNumber?] at h
    split at h
    · cases h
    · dsimp only at h
      split at h
      · cases h
        exact Nat.lt_succ_self _
      · obtain ⟨⟨m, after⟩, hm, heq⟩ := Option.map_eq_some_iff.1 h
        cases heq
        exact Nat.lt_trans (ih hm) (Nat.lt_succ_self _)

/-- A number divided by 35 until it is at most 455, and 36 for every division. -/
def divided (n divisions : Nat) : Nat × Nat :=
  if 455 < n then divided (n / 35) (divisions + 36) else (n, divisions)
termination_by n
decreasing_by exact Nat.div_lt_self (by omega) (by decide)

/-- The bias after a number, for the size of the text that it has been put into. -/
def biasAfter (n : Nat) (isFirst : Bool) (size : Nat) : Nat :=
  let start := if isFirst then n / 700 else n / 2
  let (rest, divisions) := divided (start + start / size) 0
  divisions + 36 * rest / (rest + 38)

/-- How far a text has been put together. -/
structure Progress where
  /-- The text so far. -/
  text : List Char
  /-- The code point of the last character that has been put in. -/
  code : Nat := 128
  /-- The place after that character. -/
  place : Nat := 0
  /-- The bias of the next number. -/
  bias : Nat := 72
  /-- Whether no character has been put in. -/
  isFirst : Bool := true

/-- One more character is put in: a number counts the places that are passed on the way to it, round
after round, and every round is one code point. Beyond the last code point a question mark is put
in. -/
def Progress.put (p : Progress) (n : Nat) : Progress :=
  let size := p.text.length + 1
  let code := p.code + (p.place + n) / size
  let code := if 0x10FFFF < code then '?'.toNat else code
  let place := (p.place + n) % size
  { text := p.text.take place ++ (Piece.ofCode code 1).char?.getD missing :: p.text.drop place,
    code, place := place + 1, bias := biasAfter n p.isFirst size, isFirst := false }

/-- The text after all characters have been put in that a text of numbers tells. -/
def Progress.finish (p : Progress) (s : List Char) : List Char :=
  match _h : readNumber? p.bias 0 1 s with
  | none => p.text
  | some (n, rest) => (p.put n).finish rest
termination_by s.length
decreasing_by exact length_of_readNumber? _h

/-- The bytes after the last hyphen, or all bytes if there is none. -/
def numerals (bs : List UInt8) : List UInt8 :=
  (bs.reverse.takeWhile fun b => b ≠ 45).reverse

/-- The bytes before the last hyphen. -/
def letters (bs : List UInt8) : List UInt8 :=
  bs.take (bs.length - (numerals bs).length - 1)

/-- Whether a byte is one of ASCII. -/
def isAscii (b : UInt8) : Bool :=
  b < 128

/-- Bytes as text. -/
def read (bs : List UInt8) : Except Fault (List Char) :=
  match (numerals bs).dropWhile isAscii with
  | byte :: _ => .error (.beyondAscii byte ((numerals bs).takeWhile isAscii).length)
  | [] =>
    let start : Progress := { text := Encoding.ascii.read (letters bs) }
    .ok (start.finish ((numerals bs).map fun b => Char.ofNat b.toNat))

end Extraction.Charset.Insertion
