import Extraction.Calendar.Moment

/-!
# Exact dates and times

The exact notation writes a date as year, month and day, or as year, week and day of the week, with
hyphens between all parts or none; then any one character; then a time of day, its parts with
colons between all or none; then perhaps a zone. A text in this notation that names no date or time
of day is no moment.

## Main definitions

* `Calendar.readDate?` : the date that a text writes.
* `Calendar.readClock?` : the time of day that a text begins with.
* `Calendar.readIso?` : the moment that a text writes.
-/

namespace Extraction.Calendar

/-- The number that exactly `n` ASCII digits at the start of a text write, and what follows. -/
def readDigits? (n : Nat) (s : List Char) : Option (Nat × List Char) :=
  let ds := s.take n
  if ds.length = n ∧ ds.all Text.isAsciiDigit then some (Decimal.digitsValue ds, s.drop n)
  else none

/-- The number of the Monday on which the first week of a year begins. The first week is the one
that holds the fourth of January. -/
def firstMonday (year : Nat) : Int :=
  let january : Int := dayNumber year 1 1
  let weekday := (january + 6) % 7
  if weekday > 3 then january - weekday + 7 else january - weekday

/-- Whether a year has 53 weeks: it begins on a Thursday, or on a Wednesday and is a leap year. -/
def isLongYear (year : Nat) : Bool :=
  let weekday := dayNumber year 1 1 % 7
  weekday == 4 || (weekday == 3 && isLeap year)

/-- The date of a day of a week. -/
def ofWeek? (year week day : Nat) : Option (Nat × Nat × Nat) :=
  if year < 1 || year > 9999 || week < 1 || week > 53 || (week == 53 && !isLongYear year) ||
      day < 1 || day > 7 then none
  else
    let n := firstMonday year + (week - 1) * 7 + (day - 1)
    if n < 1 then none else some (ofDayNumber n.toNat)

/-- The date that a whole text writes. -/
def readDate? (s : List Char) : Option (Nat × Nat × Nat) := do
  let (year, rest) ← readDigits? 4 s
  let hyphens := rest.head? = some '-'
  let rest := if hyphens then rest.drop 1 else rest
  match rest with
  | 'W' :: rest =>
    let (week, rest) ← readDigits? 2 rest
    if rest.isEmpty then ofWeek? year week 1
    else
      if hyphens && rest.head? ≠ some '-' then none
      let (day, rest) ← readDigits? 1 (if hyphens then rest.drop 1 else rest)
      if rest.isEmpty then ofWeek? year week day else none
  | rest =>
    let (month, rest) ← readDigits? 2 rest
    if hyphens && rest.head? ≠ some '-' then none
    let (day, rest) ← readDigits? 2 (if hyphens then rest.drop 1 else rest)
    if rest.isEmpty then some (year, month, day) else none

/-- A time of day. -/
structure Clock where
  /-- The hour. -/
  hour : Nat := 0
  /-- The minute. -/
  minute : Nat := 0
  /-- The second. -/
  second : Nat := 0
  /-- The microsecond. -/
  microsecond : Nat := 0
  deriving DecidableEq, Repr

/-- A fraction of a second in microseconds: the first six digits count, and what follows them. -/
def readFraction? (s : List Char) : Option (Nat × List Char) := do
  let n := min s.length 6
  if n = 0 then none
  let (value, rest) ← readDigits? n s
  some (value * tenTo (6 - n), rest.dropWhile Text.isAsciiDigit)

/-- The time of day that the first `length` characters of a text write. The flag says whether
something is left over after it that does not belong to it. -/
def readClock? (length : Nat) (s : List Char) : Option (Clock × Bool) := do
  let s := s.take length
  let fraction (c : Clock) (rest : List Char) : Option (Clock × Bool) := do
    let (micros, rest) ← readFraction? rest
    some ({ c with microsecond := micros }, !rest.isEmpty)
  let (hour, rest) ← readDigits? 2 s
  let colons := rest.head? = some ':'
  let next (c : Clock) (rest : List Char) (go : List Char → Option (Clock × Bool)) :
      Option (Clock × Bool) :=
    match rest with
    | [] => some (c, false)
    | [_] => some (c, true)
    | d :: more =>
      if colons && d = ':' then go more
      else if d = '.' || d = ',' then fraction c more
      else if !colons then go (d :: more)
      else none
  let c : Clock := { hour }
  next c rest fun rest => do
    let (minute, rest) ← readDigits? 2 rest
    let c := { c with minute }
    next c rest fun rest => do
      let (second, rest) ← readDigits? 2 rest
      let c := { c with second }
      next c rest fun rest => fraction c rest

/-- The zone that the text after a sign writes. -/
def readOffset? (negative : Bool) (s : List Char) : Option Zone := do
  let (c, leftOver) ← readClock? s.length s
  if leftOver then none
  let seconds : Int := c.hour * 3600 + c.minute * 60 + c.second
  if seconds = 0 then some .universal
  else
    let micros := seconds * 1000000 + c.microsecond
    if micros < 86400000000 then some (.offset (if negative then -micros else micros)) else none

/-- The time of day and the zone that a whole text writes. -/
def readTime? (s : List Char) : Option (Clock × Option Zone) := do
  let isSign := fun (c : Char) => c = '+' || c = '-' || c = 'Z'
  let clockText := s.takeWhile fun c => !isSign c
  match s.dropWhile fun c => !isSign c with
  | [] =>
    let (c, leftOver) ← readClock? s.length s
    if leftOver then none else some (c, none)
  | sign :: rest =>
    let (c, _) ← readClock? clockText.length s
    if sign = 'Z' then
      if rest.isEmpty then some (c, some .universal) else none
    else
      let zone ← readOffset? (sign = '-') rest
      some (c, some zone)

/-- How many characters of a text are its date: the fifth and sixth tell the notation. -/
def dateLength? (s : List Char) : Option Nat :=
  let n := s.length
  let isDigitAt (i : Nat) := (s[i]?).any Text.isAsciiDigit
  if n < 7 then none
  else if n = 7 then some 7
  else if s[4]? = some '-' then
    if s[5]? = some 'W' then
      if s[8]? = some '-' then
        if n = 9 then none else if isDigitAt 10 then some 8 else some 10
      else some 8
    else some 10
  else if s[4]? = some 'W' then
    let digits := 7 + ((s.drop 7).takeWhile Text.isAsciiDigit).length
    if digits < 9 then some digits else if digits % 2 = 0 then some 7 else some 8
  else some 8

/-- Whether the fields of a moment are in their ranges. -/
def isClock (c : Clock) : Bool :=
  c.hour < 24 && c.minute < 60 && c.second < 60

/-- The moment that a text writes exactly. -/
def readIso? (s : List Char) : Option Moment := do
  let n ← dateLength? s
  let (year, month, day) ← readDate? (s.take n)
  let (c, zone) ←
    match s.drop n with
    | [] => some ({}, none)
    | _ :: rest => readTime? rest
  if isDate year month day && isClock c then
    some ⟨year, month, day, c.hour, c.minute, c.second, c.microsecond, zone⟩
  else none

end Extraction.Calendar
