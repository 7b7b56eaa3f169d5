import Extraction.Number.Integer
import Extraction.Text.Case

/-!
# Fields of options

A field takes values of one kind, and values of other kinds that write one of it: a text may write
an integer or a truth value, and a number without a fraction is an integer. What a field refuses, it
refuses for a cause.

## Main definitions

* `Options.Cause` : why a field refuses a value, with `Options.Cause.code`.
* `Options.textField`, `Options.integerField`, `Options.countField`, `Options.truthField` : what
  the fields make of values.
-/

namespace Extraction.Options

/-- Why a field refuses a value. -/
inductive Cause where
  /-- It is no text. -/
  | notText
  /-- It is nothing that could be an integer. -/
  | notInteger
  /-- It is a text that writes no integer. -/
  | unreadableInteger
  /-- It is an integer that is too large to be read. -/
  | oversizedInteger
  /-- It is a number with a fraction. -/
  | fractional
  /-- It is a number without a value. -/
  | notFinite
  /-- It is below zero. -/
  | negative
  /-- It is nothing that could be a truth value. -/
  | notTruth
  /-- It is something that could be a truth value but is none. -/
  | unreadableTruth
  deriving DecidableEq, Repr

/-- The code of a cause. -/
def Cause.code : Cause → String
  | .notText => "string_type"
  | .notInteger => "int_type"
  | .unreadableInteger => "int_parsing"
  | .oversizedInteger => "int_parsing_size"
  | .fractional => "int_from_float"
  | .notFinite => "finite_number"
  | .negative => "greater_than_equal"
  | .notTruth => "bool_type"
  | .unreadableTruth => "bool_parsing"

/-- What a field of texts makes of a value. -/
def textField : Value → Except Cause String
  | .text s => .ok s
  | _ => .error .notText

/-- What follows zeros and low lines. A zero or line stays before a point and at the end, and
nothing but these and digits must follow. -/
def skipZeros (last : Char) : List Char → Option (List Char)
  | [] => some [last]
  | c :: rest =>
    if c = '0' || c = '_' then skipZeros c rest
    else if c = '.' then some (last :: c :: rest)
    else if Text.isAsciiDigit c then some (c :: rest)
    else none

/-- A text that starts with a digit, without the zeros in front. -/
def afterZeros : List Char → Option (List Char)
  | [] => none
  | c :: rest =>
    if c = '0' then skipZeros c rest
    else if Text.isAsciiDigit c then some (c :: rest)
    else none

/-- A text without a fraction of zeros at its end. -/
def withoutZeroFraction (s : List Char) : List Char :=
  let whole := s.takeWhile (· ≠ '.')
  if (s.drop (whole.length + 1)).all (· = '0') then whole else s

/-- Whether every low line in a text is single and stands between two other characters. -/
def hasSingleLines : List Char → Bool
  | [] => true
  | ['_'] => false
  | '_' :: '_' :: _ => false
  | _ :: rest => hasSingleLines rest

/-- A text without the low lines in it, if they are single and within it. -/
def withoutLines (s : List Char) : List Char :=
  if s.head? ≠ some '_' && hasSingleLines s then s.filter (· ≠ '_') else s

/-- The integer that a text writes: blanks around it, a sign, zeros in front of it, single low lines
in it and a fraction of zeros do not matter. -/
def readInteger (s : List Char) : Except Cause Int :=
  let body := ((s.dropWhile Integer.isMargin).reverse.dropWhile Integer.isMargin).reverse
  let (negative, unsigned) := Decimal.readSign body
  match afterZeros unsigned with
  | none => .error .unreadableInteger
  | some run =>
    let digits := withoutLines (withoutZeroFraction run)
    if digits.length > Integer.maxDigits then .error .oversizedInteger
    else if !digits.isEmpty && digits.all Text.isAsciiDigit then
      let n : Int := Decimal.digitsValue digits
      .ok (if negative then -n else n)
    else .error .unreadableInteger

/-- The bound of the integers that numbers with a point give: they lie below it and above its
opposite. -/
def wordBound : Int := twoTo 63

/-- The integer that a number with a point is. -/
def wholeNumber (x : Binary64) : Except Cause Int :=
  match x.floor? with
  | none => .error .notFinite
  | some n =>
    if x.compareInt? n ≠ some .eq then .error .fractional
    else if -wordBound < n ∧ n < wordBound then .ok n
    else .error .oversizedInteger

/-- What a field of integers makes of a value. -/
def integerField : Value → Except Cause Int
  | .int n => .ok n
  | .bool b => .ok (if b then 1 else 0)
  | .float x => wholeNumber x
  | .text s => readInteger s.toList
  | _ => .error .notInteger

/-- What a field of natural numbers makes of a value. -/
def countField (v : Value) : Except Cause Nat :=
  match integerField v with
  | .ok n => if n < 0 then .error .negative else .ok n.toNat
  | .error cause => .error cause

/-- The texts that write truth values, in lower case. -/
def truthTexts : List (String × Bool) :=
  [("0", false), ("f", false), ("n", false), ("no", false), ("off", false), ("false", false),
    ("1", true), ("t", true), ("y", true), ("on", true), ("yes", true), ("true", true)]

/-- The truth value that an integer of the range of a machine word is. -/
def truthOfInteger (n : Int) : Except Cause Bool :=
  if n = 0 then .ok false
  else if n = 1 then .ok true
  else if -wordBound ≤ n ∧ n < wordBound then .error .unreadableTruth
  else .error .notTruth

/-- What a field of truth values makes of a value. -/
def truthField : Value → Except Cause Bool
  | .bool b => .ok b
  | .int n => truthOfInteger n
  | .float x =>
    match wholeNumber x with
    | .ok n => truthOfInteger n
    | .error _ => .error .notTruth
  | .text s =>
    match truthTexts.lookup (String.ofList (s.toList.map Text.asciiLower)) with
    | some b => .ok b
    | none => .error .unreadableTruth
  | _ => .error .notTruth

/-- What a field that may be left open makes of a value. -/
def openField {α : Type} (read : Value → Except Cause α) : Value → Except Cause (Option α)
  | .null => .ok none
  | v => (read v).map some

end Extraction.Options
