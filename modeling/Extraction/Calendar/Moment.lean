import Extraction.Text.Quoted
import Extraction.Number.Decimal

/-!
# Calendar moments

A moment is a date of the proleptic Gregorian calendar between the years 1 and 9999, a time of day
in microseconds, and possibly a zone with a fixed distance from universal time. Two moments without
a zone are equal if their fields are; two moments with zones if they name the same instant.

## Main definitions

* `Moment` : a date, a time of day and perhaps a zone.
* `Zone.micros` : how far a zone is ahead of universal time.
* `Moment.iso` : the moment with its fields from the year down to the zone.
* `Moment.quoted` : the moment as messages cite it.
* `Moment.equal` : whether two moments are the same.
* `dayNumber`, `ofDayNumber` : dates as days counted from the first day of the year 1.
-/

namespace Extraction

/-- A zone, told apart by the way it was written, since messages cite it that way. -/
inductive Zone where
  /-- Universal time in an exact text, or the zone of a time stamp. -/
  | universal
  /-- A distance from universal time, in microseconds, in an exact text. -/
  | offset (micros : Int)
  /-- Universal time in a freely written text. -/
  | looseUniversal
  /-- A distance from universal time, in seconds, and its name, in a freely written text. -/
  | looseOffset (name : Option String) (seconds : Int)
  /-- The zone of the place where the text is read, which is universal time. -/
  | here
  deriving DecidableEq, Repr

/-- How far a zone is ahead of universal time, in microseconds. -/
def Zone.micros : Zone → Int
  | .universal => 0
  | .offset micros => micros
  | .looseUniversal => 0
  | .looseOffset _ seconds => seconds * 1000000
  | .here => 0

/-- A date, a time of day and perhaps a zone. -/
structure Moment where
  /-- The year, from 1 to 9999. -/
  year : Nat
  /-- The month, from 1. -/
  month : Nat
  /-- The day of the month, from 1. -/
  day : Nat
  /-- The hour, from 0. -/
  hour : Nat := 0
  /-- The minute, from 0. -/
  minute : Nat := 0
  /-- The second, from 0. -/
  second : Nat := 0
  /-- The microsecond, from 0. -/
  microsecond : Nat := 0
  /-- The zone, if one is known. -/
  zone : Option Zone := none
  deriving DecidableEq, Repr

namespace Calendar

/-- Whether a year has 366 days. -/
def isLeap (year : Nat) : Bool :=
  year % 4 == 0 && (year % 100 != 0 || year % 400 == 0)

/-- The number of days of a month. -/
def monthLength (year month : Nat) : Nat :=
  match month with
  | 2 => if isLeap year then 29 else 28
  | 4 | 6 | 9 | 11 => 30
  | _ => 31

/-- The number of days before the first day of a year. -/
def daysBeforeYear (year : Nat) : Nat :=
  let y := year - 1
  y * 365 + y / 4 - y / 100 + y / 400

/-- The number of days of a year before a month. -/
def daysBeforeMonth (year month : Nat) : Nat :=
  (List.range (month - 1)).foldl (fun n m => n + monthLength year (m + 1)) 0

/-- The number of a day; the first day of the year 1 has number 1. -/
def dayNumber (year month day : Nat) : Nat :=
  daysBeforeYear year + daysBeforeMonth year month + day

/-- The month and the day of the month that a number of days from the start of a year reaches. -/
def monthOfDay (year : Nat) : Nat → Nat → Nat → Nat × Nat
  | 0, month, rest => (month, rest)
  | fuel + 1, month, rest =>
    let n := monthLength year month
    if rest ≤ n then (month, rest) else monthOfDay year fuel (month + 1) (rest - n)

/-- The date with a given number. -/
def ofDayNumber (n : Nat) : Nat × Nat × Nat :=
  let guess := (n - 1) * 400 / 146097 + 1
  let year :=
    if daysBeforeYear (guess + 1) < n then guess + 1
    else if n ≤ daysBeforeYear guess then guess - 1
    else guess
  let (month, day) := monthOfDay year 11 1 (n - daysBeforeYear year)
  (year, month, day)

/-- Whether three numbers are a date of the calendar. -/
def isDate (year month day : Nat) : Bool :=
  1 ≤ year && year ≤ 9999 && 1 ≤ month && month ≤ 12 && 1 ≤ day && day ≤ monthLength year month

/-- A number in at least `width` digits. -/
def padded (width n : Nat) : List Char :=
  let ds := Decimal.digitChars n
  List.replicate (width - ds.length) '0' ++ ds

/-- A distance from universal time as `±hh:mm`, with seconds and microseconds if there are any. -/
def offsetChars (micros : Int) : List Char :=
  let n := micros.natAbs
  let seconds := n / 1000000
  let part := n % 1000000
  (if micros < 0 then '-' else '+') ::
    (padded 2 (seconds / 3600) ++ ':' :: padded 2 (seconds / 60 % 60) ++
      (if seconds % 60 ≠ 0 || part ≠ 0 then ':' :: padded 2 (seconds % 60) else []) ++
      (if part ≠ 0 then '.' :: padded 6 part else []))

end Calendar

namespace Moment

open Calendar

/-- The fields of a moment from the year down to the zone, date and time joined by `joint`. -/
def isoChars (joint : Char) (m : Moment) : List Char :=
  padded 4 m.year ++ '-' :: padded 2 m.month ++ '-' :: padded 2 m.day ++
    joint :: padded 2 m.hour ++ ':' :: padded 2 m.minute ++ ':' :: padded 2 m.second ++
    (if m.microsecond ≠ 0 then '.' :: padded 6 m.microsecond else []) ++
    (match m.zone with
      | some z => offsetChars z.micros
      | none => [])

/-- The exact text of a moment, with a `T` between date and time. -/
def iso (m : Moment) : String :=
  String.ofList (isoChars 'T' m)

/-- The plain text of a moment, with a space between date and time. -/
def written (m : Moment) : String :=
  String.ofList (isoChars ' ' m)

/-- The microseconds from the start of the year 1, in universal time if a zone is known. -/
def instant (m : Moment) : Int :=
  let days : Int := dayNumber m.year m.month m.day
  let seconds : Int := ((days * 24 + m.hour) * 60 + m.minute) * 60 + m.second
  seconds * 1000000 + m.microsecond - (m.zone.map Zone.micros).getD 0

/-- Whether two moments are the same: both without a zone and equal in their fields, or both with a
zone and equal as instants. -/
def equal (a b : Moment) : Bool :=
  a.zone.isSome == b.zone.isSome && a.instant == b.instant

/-- A span of time as messages cite it, in days, seconds and microseconds. -/
def quotedSpan (micros : Int) : String :=
  let days := micros.fdiv 86400000000
  let rest := (micros.fmod 86400000000).toNat
  let parts :=
    (if days ≠ 0 then ["days=" ++ toString days] else []) ++
    (if rest / 1000000 ≠ 0 then ["seconds=" ++ toString (rest / 1000000)] else []) ++
    (if rest % 1000000 ≠ 0 then ["microseconds=" ++ toString (rest % 1000000)] else [])
  "datetime.timedelta(" ++ (if parts.isEmpty then "0" else ", ".intercalate parts) ++ ")"

/-- A zone as messages cite it. -/
def quotedZone : Zone → String
  | .universal => "datetime.timezone.utc"
  | .offset micros => "datetime.timezone(" ++ quotedSpan micros ++ ")"
  | .looseUniversal => "tzutc()"
  | .looseOffset name seconds =>
    "tzoffset(" ++ (match name with | some n => Text.quoted n | none => "None") ++ ", " ++
      toString seconds ++ ")"
  | .here => "tzlocal()"

/-- A moment as messages cite it: its fields down to the last that is not zero, but always the
minute, and the zone. -/
def quoted (m : Moment) : String :=
  let fine :=
    if m.microsecond ≠ 0 then [m.second, m.microsecond]
    else if m.second ≠ 0 then [m.second]
    else []
  let fields := [m.year, m.month, m.day, m.hour, m.minute] ++ fine
  let zone :=
    match m.zone with
    | some z => ["tzinfo=" ++ quotedZone z]
    | none => []
  "datetime.datetime(" ++ ", ".intercalate (fields.map toString ++ zone) ++ ")"

end Moment

end Extraction
