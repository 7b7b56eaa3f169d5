import Extraction.Calendar.Moment
import Extraction.Number.Decimal
import Extraction.Number.Integer
import Extraction.Selector.Context

/-!
# States of forms

What a form would show at rest follows from its markup: its first button is the one that sends it, a
group of buttons of which none is pressed is undecided, and a control has a value that lies within
its bounds or outside of them.

## Main definitions

* `Selector.isFormDefault` : whether an element is the button that sends its form.
* `Selector.isUndecided` : whether no button of the group of an element is pressed.
* `Selector.Amount`, `Selector.Amount.read` : what the value of a control says; a year of too many
  digits, and a week of a year that has not four, are faults.
* `Selector.isWithinBounds` : whether the value of a control lies within its bounds.
-/

namespace Extraction.Selector

open Text Markup

/-- Whether an element is a form. -/
def isForm (c : Context) (p : Place) : Bool :=
  isNamed c p "form" && isHypertextElement c p

/-- Whether an element sends its form. -/
def isSender (c : Context) (p : Place) : Bool :=
  (isNamed c p "input" || isNamed c p "button") &&
    asciiLowerString ((attributeOf? c p.tag "type").getD "") == "submit"

/-- Whether an element is the first one to send the form that it is in. What stands after a form
within the form does not count. -/
def isFormDefault (c : Context) (p : Place) : Bool :=
  match p.ancestors.find? (isForm c) with
  | none => false
  | some form =>
    ((form.descendants.takeWhile fun q => !isNamed c q "form").find? (isSender c)).any (·.same p)

/-- The form that an element is in, or else the whole document. -/
def formOf? (c : Context) (p : Place) : Option Place :=
  (p.ancestors.find? (isForm c)).or p.ancestors.getLast?

/-- Whether an element is a pressed button of a group of a name. -/
def isPressed (c : Context) (name : Option String) (p : Place) : Bool :=
  let value? (key : String) : Option String :=
    (p.tag.attributes.find? fun a => asciiLowerString a.name == key).map Attribute.value
  isNamed c p "input" && (value? "type").any (asciiLowerString · == "radio") &&
    (value? "name").isSome && value? "name" == name && (value? "checked").isSome

/-- Whether no button of the group that an element belongs to is pressed. -/
def isUndecided (c : Context) (p : Place) : Bool :=
  let name := attributeOf? c p.tag "name"
  match formOf? c p with
  | none => true
  | some form =>
    !(form.descendants.any fun q =>
      !q.same p && isPressed c name q && (formOf? c q).any (·.same form))

/-- What the value of a control says: the parts of a date or a time, or a number. -/
inductive Amount where
  | parts (ns : List Nat)
  | number (x : Binary64)
  deriving DecidableEq, Repr

namespace Amount

/-- Whether one list of parts comes before another. -/
def precedes : List Nat → List Nat → Bool
  | a :: as, b :: bs => a < b || (a == b && precedes as bs)
  | [], _ :: _ => true
  | _, [] => false

/-- Whether one amount is less than another. -/
def less : Amount → Amount → Bool
  | .parts as, .parts bs => precedes as bs
  | .number x, .number y => x.compare? y == some .lt
  | _, _ => false

/-- Pairs of digits, each after a given text, up to the end of a text. -/
def pairs? : List (List Char) → List Char → Option (List Nat)
  | [], [] => some []
  | [], _ :: _ => none
  | lead :: leads, s =>
    match s.drop lead.length with
    | a :: b :: rest =>
      if s.take lead.length = lead && isAsciiDigit a && isAsciiDigit b then
        (pairs? leads rest).map (Decimal.digitsValue [a, b] :: ·)
      else none
    | _ => none

/-- A year of at least four digits, and pairs of digits after it. There is no year zero. -/
def dated (leads : List (List Char)) (s : List Char) : Reading (Nat × List Nat) := do
  let digits := s.takeWhile isAsciiDigit
  let pairs ← pairs? leads (s.drop digits.length)
  if digits.length < 4 then failure
  let year ← (Integer.ofDigits digits : Except Fault Nat)
  if year = 0 then failure
  return (year, pairs)

/-- Whether a year has a month. -/
def isMonth (month : Nat) : Bool :=
  1 ≤ month && month ≤ 12

/-- Whether a year has a day. -/
def isDate (year month day : Nat) : Bool :=
  isMonth month && 1 ≤ day && day ≤ Calendar.monthLength year month

/-- Whether a day has a time. -/
def isClock (hour minute : Nat) : Bool :=
  hour ≤ 23 && minute ≤ 59

/-- The number of the last week of a year. A year that ends in the first week of the next one counts
as a long one. The calendar of weeks has the years of four digits only, and asking it for another
one is a fault. -/
def lastWeek (year : Nat) : Except Fault Nat :=
  if year < 1000 || 9999 < year then .error (.weekYear year)
  else
    let day := Calendar.dayNumber year 12 31 % 7
    .ok (if day = 6 || day = 0 || (day = 5 && !Calendar.isLeap year) then 52 else 53)

/-- A number: an integer, a fraction, or both. -/
def number? (s : List Char) : Option Binary64 :=
  let unsigned := if s.head? = some '-' then s.drop 1 else s
  let whole := unsigned.takeWhile isAsciiDigit
  let isNumber := match unsigned.drop whole.length with
    | [] => !whole.isEmpty
    | '.' :: fraction => !fraction.isEmpty && fraction.all isAsciiDigit
    | _ => false
  if isNumber then Binary64.read? s else none

/-- What the value of a control of a type says. A line break may stand at its end. -/
def read (type value : String) : Reading Amount := do
  let s := value.toList
  let s := if s.getLast? = some '\n' then s.dropLast else s
  match type with
  | "date" =>
    match ← dated [['-'], ['-']] s with
    | (year, [month, day]) =>
      if isDate year month day then return .parts [year, month, day] else failure
    | _ => failure
  | "month" =>
    match ← dated [['-']] s with
    | (year, [month]) => if isMonth month then return .parts [year, month] else failure
    | _ => failure
  | "week" =>
    match ← dated [['-', 'W']] s with
    | (year, [week]) =>
      let last ← (lastWeek year : Except Fault Nat)
      if 1 ≤ week && week ≤ last then return .parts [year, week] else failure
    | _ => failure
  | "time" =>
    match ← pairs? [[], [':']] s with
    | [hour, minute] => if isClock hour minute then return .parts [hour, minute] else failure
    | _ => failure
  | "datetime-local" =>
    match ← dated [['-'], ['-'], ['T'], [':']] s with
    | (year, [month, day, hour, minute]) =>
      if isDate year month day && isClock hour minute then
        return .parts [year, month, day, hour, minute]
      else failure
    | _ => failure
  | "number" | "range" => return .number (← number? s)
  | _ => failure

end Amount

/-- Whether an amount lies outside of bounds. For times of day the bounds may be the wrong way
round, and leave out what is between them. -/
def isOutside (type : String) (low high : Option Amount) (value : Amount) : Bool :=
  let below := low.any fun bound => value.less bound
  let above := high.any fun bound => bound.less value
  match low, high with
  | some l, some h => if type == "time" && h.less l then below && above else below || above
  | _, _ => below || above

/-- Whether the value of a control lies within its bounds, if it has any. A value that says nothing
does. -/
def isWithinBounds (c : Context) (p : Place) : Reading Bool := do
  let value (name : String) : Option String := attributeOf? c p.tag name
  let type := asciiLowerString ((value "type").getD "")
  let amount (name : String) : Reading (Option Amount) :=
    match value name with
    | some s => OptionT.lift (Amount.read type s).run
    | none => return none
  match ← amount "min", ← amount "max" with
  | none, none => failure
  | low, high => return !(← amount "value").any (isOutside type low high)

end Extraction.Selector
