import Extraction.Pattern.Reader
import Extraction.Pattern.Matcher
import Extraction.Text.Search

/-!
# Replacement texts

A replacement text refers to what a match has matched by a dollar sign: `$` and a number for a
group, `$&` for the whole match. It is turned into a template, in which a backslash marks every
reference (`\g<n>`) and stands before every backslash of the text, and the template is expanded at
each match. A template that refers to a group that the pattern does not have is refused.

## Main definitions

* `Pattern.templateOf` : the template of a replacement text.
* `Pattern.Piece` : a character or a reference to a group.
* `Pattern.readTemplate` : the pieces of a template.
* `Pattern.expand` : the text that pieces stand for at a match.
* `Pattern.replaceMatches` : a text with its first matches, or all of them, replaced.
-/

namespace Extraction.Pattern

open Text

/-- Every dollar sign with a number becomes a marked reference. -/
def markNumbers (s : List Char) : List Char :=
  match s with
  | [] => []
  | c :: rest =>
    if c = '$' ∧ (rest.takeWhile isDigit) ≠ [] then
      "\\g<".toList ++ rest.takeWhile isDigit ++ '>' :: markNumbers (rest.dropWhile isDigit)
    else c :: markNumbers rest
termination_by s.length
decreasing_by
  · have := (List.dropWhile_suffix isDigit (l := rest)).length_le
    simp only [List.length_cons]
    omega
  · simp

/-- The template of a replacement text. -/
def templateOf (replacement : List Char) : List Char :=
  replaceAll "$&".toList "\\g<0>".toList
    (markNumbers (replaceAll ['\\'] ['\\', '\\'] replacement))

/-- A part of a template. -/
inductive Piece where
  | char (c : Char)
  | group (index : Nat)
  deriving DecidableEq, Repr

/-- The pieces of a template for a pattern with a number of groups. -/
def readTemplate (groups : Nat) (s : List Char) : Except Problem (List Piece) :=
  match s with
  | [] => .ok []
  | '\\' :: '\\' :: rest => (readTemplate groups rest).map (.char '\\' :: ·)
  | '\\' :: 'g' :: '<' :: rest =>
    let digits := rest.takeWhile (· ≠ '>')
    let index := Decimal.digitsValue digits
    if digits.isEmpty || !digits.all isDigit || digits.length > 4300 then
      .error (.malformed "a bad group name")
    else if index > groups then .error (.malformed "an unknown group")
    else
      (readTemplate groups ((rest.dropWhile (· ≠ '>')).drop 1)).map (.group index :: ·)
  | '\\' :: _ => .error (.malformed "an escape has no meaning")
  | c :: rest => (readTemplate groups rest).map (.char c :: ·)
termination_by s.length
decreasing_by
  · simp only [List.length_cons]; omega
  · have := (List.dropWhile_suffix (fun c : Char => decide (c ≠ '>')) (l := rest)).length_le
    simp only [List.length_drop, List.length_cons]
    omega
  · simp

/-- The text that pieces stand for at a match; a group that has not matched is empty. -/
def expand (m : Match) (pieces : List Piece) : List Char :=
  pieces.flatMap fun
    | .char c => [c]
    | .group index => (m.group? index).getD []

/-- A text with its first match replaced, or with all of them. -/
def replaceMatches (n : Node) (pieces : List Piece) (all : Bool) (s : List Char) : List Char :=
  let limit := if all then 2 * s.length + 2 else 1
  let (found, tail) := n.scan limit false (Spot.start s)
  found.flatMap (fun f => f.skipped ++ expand f.found pieces) ++ tail

end Extraction.Pattern
