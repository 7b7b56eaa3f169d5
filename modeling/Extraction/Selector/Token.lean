import Extraction.Number.Integer
import Extraction.Selector.Tree
import Extraction.Text.Case
import Extraction.Text.Search

/-!
# Tokens of selectors

A selector is written with names, strings, numbers and signs. Blanks and comments may stand where
nothing else is meant by them, and a backslash takes away the meaning of a character or gives a
character by its code point.

A code point may be beyond that of the last character, and a number may have more digits than are
read. Neither breaks a rule of the notation, but what is read of such a text is a fault. A code
point between those of characters is read as if it were zero.

## Main definitions

* `Selector.readName?`, `Selector.readString?`, `Selector.readValue?` : names and strings.
* `Selector.readStep?` : the numbers of siblings.
* `Selector.Token`, `Selector.readToken?` : the tokens of a selector.
-/

namespace Extraction.Selector

open Text

/-- Whether a character is a blank of selectors. -/
def isSpace (c : Char) : Bool :=
  [' ', '\t', '\r', '\n', '\x0c'].contains c

/-- Whether a character ends a line. -/
def isLineEnd (c : Char) : Bool :=
  c = '\r' || c = '\n' || c = '\x0c'

/-- What follows a comment, after its opening sign. -/
def afterComment? : List Char → Option (List Char)
  | [] => none
  | '*' :: '/' :: rest => some rest
  | _ :: rest => afterComment? rest

/-- What follows the blanks and comments at the start of a text: `fuel` bounds their number. -/
def skipSpaceFrom : Nat → List Char → List Char
  | 0, s => s
  | fuel + 1, '/' :: '*' :: rest =>
    match afterComment? rest with
    | some after => skipSpaceFrom fuel after
    | none => '/' :: '*' :: rest
  | fuel + 1, c :: rest => if isSpace c then skipSpaceFrom fuel rest else c :: rest
  | _, [] => []

/-- What follows the blanks and comments at the start of a text. -/
def skipSpace (s : List Char) : List Char :=
  skipSpaceFrom s.length s

/-- The value of a hexadecimal digit. -/
def hexDigit? (c : Char) : Option Nat :=
  if '0' ≤ c ∧ c ≤ '9' then some (c.toNat - '0'.toNat)
  else if 'a' ≤ c ∧ c ≤ 'f' then some (c.toNat - 'a'.toNat + 10)
  else if 'A' ≤ c ∧ c ≤ 'F' then some (c.toNat - 'A'.toNat + 10)
  else none

/-- What follows one blank at the start of a text, if there is one; a carriage return and a line
feed are one. -/
def dropSpace : List Char → List Char
  | '\r' :: '\n' :: rest => rest
  | c :: rest => if isSpace c then rest else c :: rest
  | [] => []

/-- The character of a code point; the replacement character stands for that of zero. -/
def charOf (code : Nat) : Except Fault Char :=
  if code > 0x10FFFF then .error .noSuchCharacter
  else .ok (if code = 0 then Char.ofNat 0xFFFD else Char.ofNat code)

/-- The character that a backslash and what follows it stand for, and what follows that. The text
begins after the backslash. -/
def readEscape? (s : List Char) : Option (Except Fault Char × List Char) :=
  match s with
  | [] => some (.ok (Char.ofNat 0xFFFD), [])
  | c :: rest =>
    let digits := (s.takeWhile fun d => (hexDigit? d).isSome).take 6
    if digits.isEmpty then if isLineEnd c then none else some (.ok c, rest)
    else
      let code := digits.foldl (fun n d => 16 * n + (hexDigit? d).getD 0) 0
      some (charOf code, dropSpace (s.drop digits.length))

/-- The characters of a name or a string, or the first fault of one of them. -/
abbrev Chars := Except Fault (List Char)

/-- Characters after one more. -/
def Chars.cons (c : Except Fault Char) (cs : Chars) : Chars := do
  return (← c) :: (← cs)

/-- Characters as a text. -/
def Chars.text (cs : Chars) : Except Fault String :=
  cs.map String.ofList

/-- Whether a character may begin a name. -/
def beginsName (c : Char) : Bool :=
  ('a' ≤ c && c ≤ 'z') || ('A' ≤ c && c ≤ 'Z') || c = '_' || c.toNat ≥ 0xA0

/-- Whether a character may stand in a name. -/
def staysInName (c : Char) : Bool :=
  beginsName c || c = '-' || isAsciiDigit c

/-- The characters of a name that satisfy a condition, and what follows them: `fuel` bounds their
number. -/
def readNameChars (holds : Char → Bool) : Nat → List Char → Chars × List Char
  | 0, s => (.ok [], s)
  | _, [] => (.ok [], [])
  | fuel + 1, '\\' :: rest =>
    match readEscape? rest with
    | some (c, after) =>
      let (cs, tail) := readNameChars holds fuel after
      (.cons c cs, tail)
    | none => (.ok [], '\\' :: rest)
  | fuel + 1, c :: rest =>
    if holds c then
      let (cs, tail) := readNameChars holds fuel rest
      (.cons (.ok c) cs, tail)
    else (.ok [], c :: rest)

/-- The name at the start of a text, and what follows it. A name may begin with a hyphen if a
letter follows it, and with two hyphens. -/
def readName? (s : List Char) : Option (Chars × List Char) :=
  let (sign, body) := match s with
    | '-' :: rest => (['-'], rest)
    | _ => ([], s)
  let begins := match body with
    | c :: rest => beginsName c || (c = '\\' && (readEscape? rest).isSome) || (sign ≠ [] && c = '-')
    | [] => false
  if begins then
    let (cs, tail) := readNameChars staysInName body.length body
    some (cs.map (sign ++ ·), tail)
  else none

/-- The string up to a closing quote, and what follows it: `fuel` bounds its length. -/
def readStringFrom (quote : Char) : Nat → List Char → Option (Chars × List Char)
  | 0, _ => none
  | _, [] => none
  | fuel + 1, '\\' :: rest =>
    match rest with
    | '\r' :: '\n' :: after => readStringFrom quote fuel after
    | c :: after =>
      if isLineEnd c then readStringFrom quote fuel after
      else
        match readEscape? rest with
        | some (d, tail) => (readStringFrom quote fuel tail).map fun (cs, t) => (.cons d cs, t)
        | none => none
    | [] => none
  | fuel + 1, c :: rest =>
    if c = quote then some (.ok [], rest)
    else if isLineEnd c then none
    else (readStringFrom quote fuel rest).map fun (cs, t) => (.cons (.ok c) cs, t)

/-- The string at the start of a text, and what follows it. -/
def readString? : List Char → Option (Chars × List Char)
  | '"' :: rest => readStringFrom '"' (rest.length + 1) rest
  | '\'' :: rest => readStringFrom '\'' (rest.length + 1) rest
  | _ => none

/-- The string or the name at the start of a text, and what follows it. -/
def readValue? (s : List Char) : Option (Chars × List Char) :=
  (readString? s).orElse fun _ => readName? s

/-- The values with commas between them at the start of a text, up to a closing parenthesis, and
what follows it: `fuel` bounds their number. -/
def readValues? : Nat → List Char → Option (Except Fault (List String) × List Char)
  | 0, _ => none
  | fuel + 1, s => do
    let (value, rest) ← readValue? s
    match skipSpace rest with
    | ')' :: after => some (value.text.map fun v => [v], after)
    | ',' :: after =>
      let (more, tail) ← readValues? fuel (skipSpace after)
      some (do return (← value.text) :: (← more), tail)
    | _ => none

/-- The sign at the start of a text, and what follows it. -/
def readSign (s : List Char) : Bool × List Char :=
  match s with
  | '-' :: rest => (true, rest)
  | '+' :: rest => (false, rest)
  | _ => (false, s)

/-- The number of digits with a sign. -/
def signed (negative : Bool) (ds : List Char) : Except Fault Int :=
  (Integer.ofDigits ds).map fun n => if negative then -(n : Int) else n

/-- The offset after a factor, and what follows it; there may be none. -/
def readOffset (s : List Char) : Except Fault Int × List Char :=
  let body := skipSpace s
  match body with
  | c :: rest =>
    if c = '+' || c = '-' then
      let digits := skipSpace rest
      let ds := digits.takeWhile isAsciiDigit
      if ds.isEmpty then (.ok 0, s)
      else (signed (c = '-') ds, digits.dropWhile isAsciiDigit)
    else (.ok 0, s)
  | [] => (.ok 0, s)

/-- The numbers of siblings that a text writes at its start, and what follows. -/
def readStep? (s : List Char) : Option (Except Fault Step × List Char) :=
  if asciiLowerString (String.ofList (s.take 4)) = "even" then some (.ok ⟨2, 0⟩, s.drop 4)
  else if asciiLowerString (String.ofList (s.take 3)) = "odd" then some (.ok ⟨2, 1⟩, s.drop 3)
  else
    let (negative, body) := readSign s
    let ds := body.takeWhile isAsciiDigit
    match body.dropWhile isAsciiDigit with
    | c :: rest =>
      if c = 'n' || c = 'N' then
        let factor := signed negative (if ds.isEmpty then ['1'] else ds)
        let (offset, after) := readOffset rest
        some (do return ⟨← factor, ← offset⟩, after)
      else if ds.isEmpty then none
      else some ((signed negative ds).map fun n => ⟨0, n⟩, c :: rest)
    | [] => none

/-- A token of a selector. -/
inductive Token where
  /-- A closing parenthesis. -/
  | close
  /-- A condition that is complete. -/
  | condition (c : Condition)
  /-- A condition that makes the whole selector one of hypertext. -/
  | hypertext (c : Condition)
  /-- The numbers of siblings that satisfy a selector, which follows. -/
  | nthOf (step : Step) (fromLast : Bool)
  /-- The name of a pseudo-class, with its parenthesis if it has one. -/
  | pseudoClass (name : String) (opens : Bool)
  /-- A pseudo-class of the writer's own. -/
  | custom
  /-- A part of an element that is no node. -/
  | pseudoElement
  /-- A rule for whole pages. -/
  | pageRule
  /-- The name of an element, perhaps with a qualifier, or a fault of one of them. -/
  | tag (name : Except Fault (Option String × String))
  /-- A sign between two selectors; a space if there is only a blank. -/
  | combine (sign : Char)

/-- A token as it is read: it may be a fault. -/
abbrev ReadToken := Except Fault Token

/-- The qualifier of a namespace at the start of a text, if a bar follows it, and what follows
that. -/
def readQualifier? (s : List Char) : Option (Except Fault String × List Char) :=
  let named : Chars × List Char := match s with
    | '*' :: rest => (.ok ['*'], rest)
    | _ => (readName? s).getD (.ok [], s)
  match named with
  | (name, '|' :: rest) => some (name.text, rest)
  | _ => none

/-- The name of an element or the sign for all names, and what follows it. -/
def readTagName? : List Char → Option (Except Fault String × List Char)
  | '*' :: rest => some (.ok "*", rest)
  | s => (readName? s).map fun (name, rest) => (name.text, rest)

/-- The name of an element with its qualifier. -/
def readTag? (s : List Char) : Option (ReadToken × List Char) :=
  let qualified : Option (ReadToken × List Char) := do
    let (q, rest) ← readQualifier? s
    let (name, after) ← readTagName? rest
    return (.ok (.tag do return (some (← q), ← name)), after)
  qualified.orElse fun _ =>
    (readTagName? s).map fun (name, rest) => (.ok (.tag (name.map fun n => (none, n))), rest)

/-- The sign that compares an attribute with a value, and what follows it. -/
def readComparison? : List Char → Option (Char × List Char)
  | '=' :: rest => some ('=', rest)
  | c :: '=' :: rest => if ['!', '~', '^', '|', '*', '$'].contains c then some (c, rest) else none
  | _ => none

/-- The test that a comparison asks for. -/
def testOf (sign : Char) (value : List Char) : AttributeTest :=
  match sign with
  | '^' => .begins value
  | '$' => .ends value
  | '*' => .contains value
  | '~' => .word value
  | '|' => .dashed value
  | _ => .equals value

/-- The test on an attribute and the case that it heeds, as they are written after the name of the
attribute. -/
structure Comparison where
  /-- The sign. -/
  sign : Char
  /-- The value. -/
  value : Chars
  /-- The case, if it is written. -/
  casing : Option Casing

/-- What follows the name of an attribute up to the closing bracket: the comparison, if there is
one, and what follows the bracket. -/
def readAttributeTail? (s : List Char) : Option (Option Comparison × List Char) :=
  match skipSpace s with
  | ']' :: after => some (none, after)
  | body => do
    let (sign, rest) ← readComparison? body
    let (value, rest) ← readValue? (skipSpace rest)
    let rest := skipSpace rest
    let (casing, rest) := match rest with
      | 'i' :: after | 'I' :: after => (some Casing.folded, after)
      | 's' :: after | 'S' :: after => (some .exact, after)
      | _ => (none, rest)
    match skipSpace rest with
    | ']' :: after => some (some ⟨sign, value, casing⟩, after)
    | _ => none

/-- The condition that an attribute of a name satisfies a comparison, or that it is there. -/
def attributeCondition (qualifier name : Except Fault String) (comparison : Option Comparison) :
    Except Fault Condition := do
  let qualifier ← qualifier
  let name ← name
  match comparison with
  | none => return .hasAttribute qualifier name .present .exact
  | some c =>
    let usual : Casing := if asciiLowerString name = "type" then .dialect else .exact
    let test := testOf c.sign (← c.value)
    let holds := Condition.hasAttribute qualifier name test (c.casing.getD usual)
    return if c.sign = '!' then .noneOf [.all [holds]] else holds

/-- A condition on an attribute; the text begins after the opening bracket. -/
def readAttribute? (s : List Char) : Option (ReadToken × List Char) :=
  let s := skipSpace s
  let qualified : Option (ReadToken × List Char) := do
    let (q, rest) ← readQualifier? s
    let (name, after) ← readName? rest
    let (comparison, tail) ← readAttributeTail? after
    return ((attributeCondition q name.text comparison).map .condition, tail)
  qualified.orElse fun _ => do
    let (name, after) ← readName? s
    let (comparison, tail) ← readAttributeTail? after
    return ((attributeCondition (.ok "") name.text comparison).map .condition, tail)

/-- What follows the word that leads to a selector after the numbers of siblings. -/
def afterOf? (s : List Char) : Option (List Char) :=
  let body := skipSpace s
  let word := body.take 2
  let rest := body.drop 2
  if body.length < s.length ∧ asciiLowerString (String.ofList word) = "of" ∧
      (skipSpace rest).length < rest.length then some (skipSpace rest)
  else none

/-- What a pseudo-class with a special notation writes in its parentheses. -/
def readSpecial? (name : String) (s : List Char) : Option (ReadToken × List Char) :=
  let numbered (fromLast : Bool) : Option (ReadToken × List Char) := do
    let (step, rest) ← readStep? s
    match skipSpace rest with
    | ')' :: after => some (step.map fun n => .condition (.nth n fromLast []), after)
    | _ => (afterOf? rest).map fun after => (step.map fun n => .nthOf n fromLast, after)
  let typed (fromLast : Bool) : Option (ReadToken × List Char) := do
    let (step, rest) ← readStep? s
    match skipSpace rest with
    | ')' :: after => some (step.map fun n => .condition (.nthOfType n fromLast), after)
    | _ => none
  let listed (condition : List String → Condition) : Option (ReadToken × List Char) :=
    (readValues? (s.length + 1) s).map fun (values, after) =>
      (values.map fun vs => .condition (condition vs), after)
  match name with
  | ":contains" | ":-soup-contains" => listed (.contains false)
  | ":-soup-contains-own" => listed (.contains true)
  | ":lang" => listed .language
  | ":dir" =>
    let word := asciiLowerString (String.ofList (s.take 3))
    match skipSpace (s.drop 3) with
    | ')' :: after =>
      if word = "ltr" then some (.ok (.hypertext (.direction .leftToRight)), after)
      else if word = "rtl" then some (.ok (.hypertext (.direction .rightToLeft)), after)
      else none
    | _ => none
  | ":nth-child" => numbered false
  | ":nth-last-child" => numbered true
  | ":nth-of-type" => typed false
  | ":nth-last-of-type" => typed true
  | _ => none

/-- What begins with a colon and goes on with a name. -/
def readPseudoClass (s chars rest : List Char) : Token × List Char :=
  if startsWith s ['-', '-'] then (.custom, rest)
  else
    let name := ":" ++ asciiLowerString (String.ofList chars)
    match rest with
    | '(' :: body => (.pseudoClass name true, skipSpace body)
    | _ => (.pseudoClass name false, rest)

/-- What begins with a colon; the text begins after it. -/
def readPseudo? (s : List Char) : Option (ReadToken × List Char) :=
  match readName? s with
  | some (.error f, rest) => some (.error f, rest)
  | some (.ok chars, rest) =>
    let name := ":" ++ asciiLowerString (String.ofList chars)
    let special := match rest with
      | '(' :: body => readSpecial? name (skipSpace body)
      | _ => none
    special.orElse fun _ =>
      let (token, after) := readPseudoClass s chars rest
      some (.ok token, after)
  | none =>
    match s with
    | ':' :: body => (readName? body).map fun (_, rest) => (.ok .pseudoElement, rest)
    | _ => none

/-- A rule for whole pages; the text begins after the sign for rules. Only the first letter of its
name is looked at. -/
def readPageRule? (s : List Char) : Option (ReadToken × List Char) :=
  match s with
  | c :: rest =>
    if c = 'p' || c = 'P' then (readName? rest).map fun (_, after) => (.ok .pageRule, after)
    else none
  | [] => none

/-- A sign between two selectors, with the blanks around it. -/
def readCombine? (s : List Char) : Option (ReadToken × List Char) :=
  let after := skipSpace s
  match after with
  | c :: rest =>
    if [',', '+', '>', '~'].contains c then some (.ok (.combine c), skipSpace rest)
    else if (s.take (s.length - after.length)).any isSpace then some (.ok (.combine ' '), after)
    else none
  | [] => none

/-- The token at the start of a text, and what follows it. -/
def readToken? (s : List Char) : Option (ReadToken × List Char) :=
  match skipSpace s with
  | ')' :: rest => some (.ok .close, rest)
  | _ =>
    match s with
    | ':' :: rest => readPseudo? rest
    | '&' :: rest => some (.ok (.condition .scope), rest)
    | '@' :: rest => readPageRule? rest
    | '#' :: rest =>
      (readName? rest).map fun (name, after) => (name.text.map fun n => .condition (.id n), after)
    | '.' :: rest =>
      (readName? rest).map fun (name, after) =>
        (name.text.map fun n => .condition (.className n), after)
    | '[' :: rest => readAttribute? rest
    | _ => (readTag? s).orElse fun _ => readCombine? s

end Extraction.Selector
