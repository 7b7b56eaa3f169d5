import Extraction.Number.Integer
import Extraction.Value

/-!
# Reading JSON

A JSON text is a value with blanks around it. Numbers without a fraction and an exponent are
integers; the three numbers without a decimal form have names. A key of an object that is repeated
keeps its first place and its last value.

A text in a value may be written by code units, and a unit may be one half of a pair without the
other. Such a text is well-formed but no sequence of characters, so it is no text of this library.

## Main definitions

* `Json.Problem` : why a text is no value.
* `Json.read` : the value of a text.
-/

namespace Extraction.Json

/-- Why a text is no value. -/
inductive Problem where
  /-- It is malformed, for this reason. -/
  | malformed (reason : String)
  /-- A number in it cannot be read. -/
  | fault (f : Fault)
  /-- It is well-formed, but one half of a pair of code units stands in it without the other. -/
  | unpaired
  deriving Repr

/-- Whether a character may stand between the parts of a value. -/
def isSpace (c : Char) : Bool :=
  c = ' ' || c = '\t' || c = '\n' || c = '\r'

/-- A text without the blanks at its start. -/
def skipSpace (s : List Char) : List Char :=
  s.dropWhile isSpace

/-- The value of a hexadecimal digit. -/
def hexValue? (c : Char) : Option Nat :=
  if '0' ≤ c && c ≤ '9' then some (c.toNat - 48)
  else if 'a' ≤ c && c ≤ 'f' then some (c.toNat - 87)
  else if 'A' ≤ c && c ≤ 'F' then some (c.toNat - 55)
  else none

/-- The number of four hexadecimal digits at the start of a text. -/
def readUnit? : List Char → Option (Nat × List Char)
  | a :: b :: c :: d :: rest => do
    let a ← hexValue? a
    let b ← hexValue? b
    let c ← hexValue? c
    let d ← hexValue? d
    return (4096 * a + 256 * b + 16 * c + d, rest)
  | _ => none

/-- The character that a letter stands for after a backslash. -/
def escaped? (c : Char) : Option Char :=
  [('"', '"'), ('\\', '\\'), ('/', '/'), ('b', '\x08'), ('f', '\x0c'), ('n', '\n'), ('r', '\r'),
    ('t', '\t')].lookup c

/-- Whether in a well-formed text every unit of a pair stands with its other half; `open_` tells
whether a first half stands right before the text. -/
def isPairedFrom (open_ : Bool) : List Char → Bool
  | [] => !open_
  | '\\' :: 'u' :: a :: b :: c :: d :: rest =>
    let unit := ((readUnit? [a, b, c, d]).map Prod.fst).getD 0
    if 0xD800 ≤ unit ∧ unit ≤ 0xDBFF then !open_ && isPairedFrom true rest
    else if 0xDC00 ≤ unit ∧ unit ≤ 0xDFFF then open_ && isPairedFrom false rest
    else !open_ && isPairedFrom false rest
  | '\\' :: _ :: rest => !open_ && isPairedFrom false rest
  | _ :: rest => !open_ && isPairedFrom false rest

/-- The character of a unit and what follows the unit: two units of a pair are one character. One
half of a pair without the other is no character, and is read as one that is replaced. -/
def joinUnits (unit : Nat) (rest : List Char) : Char × List Char :=
  let alone := (if 0xD800 ≤ unit ∧ unit ≤ 0xDFFF then '\uFFFD' else Char.ofNat unit, rest)
  if 0xD800 ≤ unit ∧ unit ≤ 0xDBFF then
    match rest with
    | '\\' :: 'u' :: more =>
      match readUnit? more with
      | some (next, after) =>
        if 0xDC00 ≤ next ∧ next ≤ 0xDFFF then
          (Char.ofNat (0x10000 + 1024 * (unit - 0xD800) + (next - 0xDC00)), after)
        else alone
      | none => alone
    | _ => alone
  else alone

/-- The characters of a text up to the closing quote. `fuel` bounds their number. -/
def readTextFrom : Nat → List Char → Except Problem (List Char × List Char)
  | 0, _ | _, [] => .error (.malformed "a text has no end")
  | fuel + 1, c :: rest => do
    if c = '"' then return ([], rest)
    else if c = '\\' then
      match rest with
      | 'u' :: more =>
        match readUnit? more with
        | some (unit, after) =>
          let (d, after) := joinUnits unit after
          let (cs, after) ← readTextFrom fuel after
          return (d :: cs, after)
        | none => .error (.malformed "an escape has not four digits")
      | d :: more =>
        match escaped? d with
        | some d =>
          let (cs, after) ← readTextFrom fuel more
          return (d :: cs, after)
        | none => .error (.malformed "an escape is unknown")
      | [] => .error (.malformed "a text has no end")
    else if c.toNat < 0x20 then .error (.malformed "a text has a control character")
    else
      let (cs, after) ← readTextFrom fuel rest
      return (c :: cs, after)

/-- The characters of a text, of which the opening quote has been read. -/
def readText (s : List Char) : Except Problem (String × List Char) :=
  (readTextFrom (s.length + 1) s).map fun (cs, rest) => (String.ofList cs, rest)

/-- The digits of an integer at the start of a text; nothing follows a leading zero. -/
def wholeDigits : List Char → List Char
  | '0' :: _ => ['0']
  | s => s.takeWhile Text.isAsciiDigit

/-- A point and digits at the start of a text. -/
def fractionOf : List Char → List Char
  | '.' :: rest =>
    match rest.takeWhile Text.isAsciiDigit with
    | [] => []
    | digits => '.' :: digits
  | _ => []

/-- A mark, a sign or none, and digits at the start of a text. -/
def exponentOf : List Char → List Char
  | mark :: rest =>
    if mark = 'e' || mark = 'E' then
      let sign := (rest.take 1).filter fun c => c = '+' || c = '-'
      match (rest.drop sign.length).takeWhile Text.isAsciiDigit with
      | [] => []
      | digits => mark :: (sign ++ digits)
    else []
  | [] => []

/-- The number at the start of a text. -/
def readNumber (s : List Char) : Except Problem (Value × List Char) :=
  let sign := (s.take 1).filter (· = '-')
  let whole := wholeDigits (s.drop sign.length)
  if whole.isEmpty then .error (.malformed "a value is missing")
  else
    let rest := s.drop (sign.length + whole.length)
    let fraction := fractionOf rest
    let power := exponentOf (rest.drop fraction.length)
    let after := rest.drop (fraction.length + power.length)
    let written := sign ++ whole ++ fraction ++ power
    if fraction.isEmpty && power.isEmpty then
      match Integer.read (String.ofList written) with
      | .ok n => .ok (.int n, after)
      | .error f => .error (.fault f)
    else .ok (.float ((Binary64.read? written).getD .nan), after)

/-- The values that go by a name. -/
def names : List (String × Value) :=
  [("null", .null), ("true", .bool true), ("false", .bool false), ("NaN", .float .nan),
    ("Infinity", .float (.infinite false)), ("-Infinity", .float (.infinite true))]

/-- The name at the start of a text, and what follows it. -/
def readName? (s : List Char) : Option (Value × List Char) :=
  names.findSome? fun (name, v) =>
    let n := name.toList
    if s.take n.length = n then some (v, s.drop n.length) else none

mutual

/-- The value at the start of a text. `fuel` bounds the number of parts. -/
def readValue (fuel : Nat) (s : List Char) : Except Problem (Value × List Char) :=
  match fuel, s with
  | 0, _ | _, [] => .error (.malformed "a value is missing")
  | fuel + 1, c :: rest =>
    if c = '"' then (readText rest).map fun (t, after) => (.text t, after)
    else if c = '[' then
      match skipSpace rest with
      | ']' :: after => .ok (.list [], after)
      | inner => (readItems fuel inner).map fun (items, after) => (.list items, after)
    else if c = '\x7b' then
      match skipSpace rest with
      | '\x7d' :: after => .ok (.map [], after)
      | inner =>
        (readMembers fuel inner).map fun (es, after) => (.map (Entries.union [] es), after)
    else
      match readName? s with
      | some found => .ok found
      | none => readNumber s

/-- The items of a list up to the closing bracket; there is at least one. -/
def readItems (fuel : Nat) (s : List Char) : Except Problem (List Value × List Char) :=
  match fuel with
  | 0 => .error (.malformed "a value is missing")
  | fuel + 1 => do
    let (v, rest) ← readValue fuel s
    match skipSpace rest with
    | ',' :: more =>
      let (vs, after) ← readItems fuel (skipSpace more)
      return (v :: vs, after)
    | ']' :: after => return ([v], after)
    | _ => .error (.malformed "a list has no end")

/-- The members of an object up to the closing brace; there is at least one. -/
def readMembers (fuel : Nat) (s : List Char) : Except Problem (Entries × List Char) :=
  match fuel, s with
  | fuel + 1, '"' :: rest => do
    let (key, rest) ← readText rest
    match skipSpace rest with
    | ':' :: more =>
      let (v, rest) ← readValue fuel (skipSpace more)
      match skipSpace rest with
      | ',' :: more =>
        let (es, after) ← readMembers fuel (skipSpace more)
        return ((.text key, v) :: es, after)
      | '\x7d' :: after => return ([(.text key, v)], after)
      | _ => .error (.malformed "an object has no end")
    | _ => .error (.malformed "a key has no value")
  | _, _ => .error (.malformed "a key is missing")

end

/-- The value of a text. Whether the text is well-formed comes before whether its pairs of units are
whole. -/
def read (s : List Char) : Except Problem Value := do
  let (v, rest) ← readValue (2 * s.length + 2) (skipSpace s)
  match skipSpace rest with
  | [] => if isPairedFrom false s then return v else .error .unpaired
  | _ => .error (.malformed "something follows the value")

end Extraction.Json
