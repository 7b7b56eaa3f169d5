import Extraction.Filter.Reply
import Extraction.Filter.Argument
import Extraction.Calendar.Iso
import Extraction.Calendar.Stamp
import Extraction.Engines

/-!
# The filter of dates

A moment stays as it is, and a number is a count of milliseconds. A text is read exactly, then
freely, and where both fail, the digits of a date and perhaps a time of day are picked out of it
and read again. A value that names no moment gives nothing, with a notice.

## Main definitions

* `Filter.readMoment` : the moment that a text names, or the fault of the reader of dates.
* `Filter.pickDate?` : the digits of a date and a time of day in a text.
* `Filter.dateOfText`, `Filter.dateOfStamp` : the moment of a text and of a number.
* `Filter.date` : the moment of a value.
-/

namespace Extraction.Filter

open Text

/-- The moment that a text names, read exactly or else freely. -/
def readMoment [Engines] (s : List Char) : Except Fault (Option Moment) :=
  match Calendar.readIso? s with
  | some m => .ok (some m)
  | none => (Engines.readDate s).run

/-- A given number of digits at the start of a text, and what follows. -/
def takeDigits? (n : Nat) (s : List Char) : Option (List Char × List Char) :=
  let digits := s.take n
  if digits.length = n ∧ digits.all isDigit then some (digits, s.drop n) else none

/-- A text from its first digit on. -/
def fromDigit (s : List Char) : List Char :=
  s.dropWhile fun c => !isDigit c

/-- The time of day at the start of a text: hours, minutes and perhaps seconds, with two digits
each. -/
def pickClock? (s : List Char) : Option (List Char) := do
  let (hour, rest) ← takeDigits? 2 s
  let (minute, rest) ← takeDigits? 2 (← afterLead? [':'] rest)
  let second := ((afterLead? [':'] rest).bind (takeDigits? 2)).map fun (ds, _) => ':' :: ds
  return hour ++ ':' :: minute ++ second.getD []

/-- A date at the start of a text, its parts joined by hyphens, and the time of day after it:
midnight if there is none. The parts may stand apart. -/
def pickDateHere? (s : List Char) : Option (List Char × List Char) := do
  let (year, rest) ← takeDigits? 4 s
  let (month, rest) ← takeDigits? 2 (fromDigit rest)
  let (day, rest) ← takeDigits? 2 (fromDigit rest)
  return (year ++ '-' :: month ++ '-' :: day, (pickClock? (fromDigit rest)).getD "00:00".toList)

/-- The first date in a text, and the time of day after it. -/
def pickDate? (s : List Char) : Option (List Char × List Char) :=
  match pickDateHere? s with
  | some found => some found
  | none =>
    match s with
    | [] => none
    | _ :: rest => pickDate? rest

/-- The ending that an argument asks to put after a text. -/
def ending (argument : Value) : Except Fault (List Char) :=
  if Argument.isTruthy argument then argument.plainText.map String.toList else .ok []

/-- The moment that a value names by its text, with the ending that an argument adds. -/
def dateOfText [Engines] (v argument : Value) : Except Fault (Option Moment) := do
  let s := (← v.plainText).toList
  let whole ←
    match v, argument with
    | .text _, .text e => pure (s ++ e.toList)
    | .text _, other =>
      if Argument.isTruthy other then throw (.notAppendable other.kind) else pure s
    | _, _ => pure s
  match ← readMoment (trim whole) with
  | some m => return some m
  | none =>
    match pickDate? s with
    | none => return none
    | some (day, clock) => readMoment (trim (day ++ ' ' :: clock ++ ' ' :: (← ending argument)))

/-- The moment of a number, if it is within the calendar. -/
def dateOfStamp (v : Value) (stamp : Value.Number) : Reply :=
  match Calendar.ofMillis? stamp with
  | some m => .ok (.moment m)
  | none =>
    match v.quoteFault? with
    | some f => .fail f
    | none => .warn .null (.stampOutOfRange v)

/-- The moment of a value. -/
def date [Engines] (v : Value) (arguments : List Value) : Reply :=
  match v with
  | .moment _ => .ok v
  | .null => .warn .null .dateIsMissing
  | .float .nan => .warn .null .stampIsNaN
  | .int n => dateOfStamp v (.int n)
  | .float x => dateOfStamp v (.float x)
  | other =>
    match dateOfText other (arguments.getD 0 .null) with
    | .ok (some m) => .ok (.moment m)
    | .ok none => .warn .null (.notDate v)
    | .error f => .fail f

end Extraction.Filter
