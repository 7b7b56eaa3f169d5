import Extraction.Text.Word
import Extraction.Text.Blank
import Extraction.Text.Fold
import Extraction.Fault

/-!
# Patterns

A pattern describes texts: characters one at a time, places between characters, sequences and
alternatives, repetitions, numbered groups and references to what a group matched. Repetition is
greedy, lazy, or greedy without going back.

## Main definitions

* `Pattern.CharTest` : what one character may be.
* `Pattern.Anchor` : a place between characters.
* `Pattern.Node` : the type of patterns.
* `Pattern.Node.width` : the least and the greatest length of what a pattern matches.
* `Pattern.Problem` : why a text is no pattern.
-/

namespace Extraction.Pattern

/-- How characters are compared: exactly, without the case of ASCII letters, or without case. -/
inductive Fold where
  | exact
  | ascii
  | full
  deriving DecidableEq, Repr

/-- A named class of characters. -/
inductive CharClass where
  | digit
  | blank
  | word
  deriving DecidableEq, Repr

/-- A part of a set of characters. -/
inductive Member where
  | single (c : Char)
  | range (first last : Nat)
  | named (cls : CharClass) (ascii negated : Bool)
  deriving DecidableEq, Repr

/-- What one character may be. -/
inductive CharTest where
  | any
  | notNewline
  | literal (fold : Fold) (c : Char)
  | set (fold : Fold) (negated : Bool) (members : List Member)
  deriving DecidableEq, Repr

/-- A place between characters. -/
inductive Anchor where
  /-- The start of the text. -/
  | start
  /-- The start of a line. -/
  | lineStart
  /-- The end of the text, or before a line break that ends it. -/
  | finish
  /-- The end of a line. -/
  | lineEnd
  /-- The very end of the text. -/
  | lastPoint
  /-- Between a word character and none, or, negated, anywhere else. -/
  | wordEdge (ascii negated : Bool)
  deriving DecidableEq, Repr

/-- How a repetition chooses its count. -/
inductive Greed where
  | greedy
  | lazy
  | possessive
  deriving DecidableEq, Repr

/-- A pattern. -/
inductive Node where
  | empty
  | one (test : CharTest)
  | anchor (place : Anchor)
  | seq (first second : Node)
  | alt (first second : Node)
  | group (index : Nat) (body : Node)
  | reference (fold : Fold) (index : Nat)
  | loop (least : Nat) (most : Option Nat) (greed : Greed) (body : Node)
  /-- The body matches in its first way only. -/
  | atomic (body : Node)
  /-- The body matches from here on, or does not. -/
  | ahead (positive : Bool) (body : Node)
  /-- The body matches the last `width` characters, or does not. -/
  | behind (positive : Bool) (width : Nat) (body : Node)
  /-- One of two bodies, by whether a group has matched. -/
  | either (index : Nat) (matched unmatched : Node)
  deriving DecidableEq, Repr

/-- Why a text is no pattern. -/
inductive Problem where
  /-- A flag has no meaning. -/
  | badFlag (flag : Value)
  /-- The text breaks a rule of the notation. -/
  | malformed (reason : String)
  /-- The text asks for something beyond all bounds. -/
  | fault (f : Fault)
  deriving Repr

/-- The least and the greatest length of what a part matches; there may be no greatest. -/
structure Width where
  /-- The least length. -/
  least : Nat
  /-- The greatest length. -/
  most : Option Nat
  deriving DecidableEq, Repr

namespace Width

/-- One after the other. -/
def add (a b : Width) : Width :=
  ⟨a.least + b.least, do return (← a.most) + (← b.most)⟩

/-- One or the other. -/
def or (a b : Width) : Width :=
  ⟨min a.least b.least, do return max (← a.most) (← b.most)⟩

/-- Between `least` and `most` times. -/
def times (a : Width) (least : Nat) (most : Option Nat) : Width :=
  ⟨a.least * least,
    match a.most, most with
    | some 0, _ => some 0
    | some n, some m => some (n * m)
    | none, some 0 => some 0
    | _, _ => none⟩

end Width

/-- The least and the greatest length of what a pattern matches, given those of its groups. -/
def Node.width (groups : List (Nat × Width)) : Node → Width
  | .empty | .anchor _ | .ahead .. | .behind .. => ⟨0, some 0⟩
  | .one _ => ⟨1, some 1⟩
  | .seq a b => (a.width groups).add (b.width groups)
  | .alt a b => (a.width groups).or (b.width groups)
  | .group _ body => body.width groups
  | .reference _ index => (groups.lookup index).getD ⟨0, none⟩
  | .loop least most _ body => (body.width groups).times least most
  | .atomic body => body.width groups
  | .either _ a b => (a.width groups).or (b.width groups)

namespace CharClass

/-- Whether a character belongs to a class. -/
def holds (cls : CharClass) (ascii : Bool) (c : Char) : Bool :=
  let inRange := !ascii || c.toNat < 128
  inRange &&
    match cls with
    | .digit => Text.isDigit c
    | .blank => Text.isBlank c && !(ascii && 0x1C ≤ c.toNat && c.toNat ≤ 0x1F)
    | .word => Text.isWord c

end CharClass

/-- Whether a character belongs to a part of a set. -/
def Member.holds (fold : Fold) (c : Char) : Member → Bool
  | .single d =>
    match fold with
    | .exact => c == d
    | .ascii => Text.asciiLower c == Text.asciiLower d
    | .full => Text.agrees c d
  | .range first last =>
    match fold with
    | .exact => first ≤ c.toNat && c.toNat ≤ last
    | .ascii =>
      let l := Text.asciiLower c
      let u := if 'a' ≤ l && l ≤ 'z' then l.toNat - 32 else l.toNat
      (first ≤ l.toNat && l.toNat ≤ last) || (first ≤ u && u ≤ last)
    | .full => Text.rangeAgrees first last c
  | .named cls ascii negated => cls.holds ascii c != negated

/-- Whether a character passes a test. -/
def CharTest.holds (c : Char) : CharTest → Bool
  | .any => true
  | .notNewline => c != '\n'
  | .literal fold d => (Member.single d).holds fold c
  | .set fold negated members => (members.any (Member.holds fold c)) != negated

end Extraction.Pattern
