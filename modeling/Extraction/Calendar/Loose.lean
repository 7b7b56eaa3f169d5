import Extraction.Calendar.Token
import Extraction.Fault

/-!
# Freely written dates and times

A freely written date names its parts in many orders: numbers with separators, names of months and
days of the week, clock times with colons or letters, halves of the day, and zones. The tokens are
read from left to right. What is clearly a year, a month name or a clock time is taken at once; the
other numbers are kept, and which of them is the year, the month and the day is settled at the end
by their sizes and their order.

A text that does not name its year is no date: it is read against two years, and the two readings
have to agree.

A clock time may have a fraction of an hour or a minute, which is computed with 28 digits. The
reader breaks off where there are more digits than that before the point. Years of two digits are
read as in 2025.

## Main definitions

* `Calendar.Parts` : the numbers of a date in the order in which they are written.
* `Calendar.Parts.resolve?` : which of them is the year, the month and the day.
* `Calendar.Draft` : what has been read so far.
* `Calendar.readDraft` : what all tokens say.
* `Calendar.readLoose` : the moment that a text names.
-/

namespace Extraction.Calendar

open Text

/-- A part of a date. -/
inductive Part where
  | year
  | month
  | day
  deriving DecidableEq, Repr

/-- The numbers of a date in the order in which they are written. -/
structure Parts where
  /-- The numbers. -/
  numbers : List Nat := []
  /-- The position of the number that is the year. -/
  yearAt : Option Nat := none
  /-- The position of the number that is the month. -/
  monthAt : Option Nat := none
  /-- The position of the number that is the day. -/
  dayAt : Option Nat := none
  /-- Whether a number has so many digits that it names its century. -/
  hasCentury : Bool := false
  deriving DecidableEq, Repr

namespace Parts

/-- The parts with one more number, whose part may be known. No part is named twice. -/
def push? (p : Parts) (n : Nat) (part : Option Part) : Option Parts :=
  let at_ := p.numbers.length
  let q := { p with numbers := p.numbers ++ [n] }
  match part with
  | none => some q
  | some .year => if p.yearAt.isSome then none else some { q with yearAt := some at_ }
  | some .month => if p.monthAt.isSome then none else some { q with monthAt := some at_ }
  | some .day => if p.dayAt.isSome then none else some { q with dayAt := some at_ }

/-- The parts with a number that is known to be the year since it names its century. -/
def pushCentury? (p : Parts) (n : Nat) (part : Option Part) : Option Parts :=
  if part = none ∨ part = some .year then
    { p with hasCentury := true }.push? n (some .year)
  else none

/-- The parts with a number as it is written: with more than two digits it is the year. -/
def pushText? (p : Parts) (s : List Char) (part : Option Part) : Option Parts :=
  if s.isEmpty || !s.all isDigit then none
  else if s.length > 2 then p.pushCentury? (Decimal.digitsValue s) part
  else p.push? (Decimal.digitsValue s) part

/-- The parts with a number by its value: above one hundred it is the year. -/
def pushValue? (p : Parts) (d : Decimal) : Option Parts :=
  let scale := tenTo (-d.exponent).toNat
  let n := d.coefficient / scale
  if d.coefficient > 100 * scale then p.pushCentury? n none else p.push? n none

/-- Whether a number could be the day, given what is known of the month and the year. -/
def couldBeDay (p : Parts) (d : Decimal) : Bool :=
  let scale := tenTo (-d.exponent).toNat
  let upTo (n : Nat) : Bool := scale ≤ d.coefficient && d.coefficient ≤ n * scale
  let numberAt (i : Option Nat) : Option Nat := i.bind fun k => p.numbers[k]?
  if p.dayAt.isSome then false
  else
    match numberAt p.monthAt with
    | none => upTo 31
    | some month =>
      match numberAt p.yearAt with
      | none => upTo (monthLength 2000 month)
      | some year => upTo (monthLength year month)

/-- The year, the month and the day as far as they are known. -/
abbrev Resolved := Option Nat × Option Nat × Option Nat

/-- The parts whose positions are all known, or all but one of three. -/
def resolveKnown (p : Parts) : Resolved :=
  let known := [p.yearAt, p.monthAt, p.dayAt].filterMap id
  let missing := [0, 1, 2].find? fun i => !known.contains i
  let fill (i : Option Nat) : Option Nat :=
    match i with
    | some k => p.numbers[k]?
    | none => if p.numbers.length = known.length then none else missing.bind fun k => p.numbers[k]?
  (fill p.yearAt, fill p.monthAt, fill p.dayAt)

/-- Which number is the year, the month and the day. Several orders are tried: a number above 31
is the year, a named month keeps its place, and otherwise the month comes before the day. -/
def resolve? (p : Parts) : Option Resolved :=
  let known := ([p.yearAt, p.monthAt, p.dayAt].filterMap id).length
  let n := p.numbers.length
  if (n = known && 0 < n) || (n = 3 && known = 2) then some p.resolveKnown
  else
    match p.numbers, p.monthAt with
    | [], _ => some (none, none, none)
    | [a], none => some (if a > 31 then (some a, none, none) else (none, none, some a))
    | [a], some _ => some (none, some a, none)
    | [a, b], none =>
      some (if a > 31 then (some a, some b, none)
        else if b > 31 then (some b, some a, none)
        else (none, some a, some b))
    | [a, b], some i =>
      let (month, other) := if i = 0 then (a, b) else (b, a)
      some (if other > 31 then (some other, some month, none) else (none, some month, some other))
    | [a, b, c], some 0 =>
      some (if b > 31 then (some b, some a, some c) else (some c, some a, some b))
    | [a, b, c], some 1 =>
      some (if a > 31 then (some a, some b, some c) else (some c, some b, some a))
    | [a, b, c], some _ =>
      some (if b > 31 then (some b, some c, some a) else (some a, some c, some b))
    | [a, b, c], none =>
      some (if a > 31 || p.yearAt = some 0 then (some a, some b, some c)
        else if a > 12 then (some c, some b, some a)
        else (some c, some a, some b))
    | _, _ => none

end Parts

/-- What has been read so far. -/
structure Draft where
  /-- The numbers of the date. -/
  parts : Parts := {}
  /-- The day of the week, from Monday on. -/
  weekday : Option Nat := none
  /-- The hour. -/
  hour : Option Nat := none
  /-- The minute. -/
  minute : Option Nat := none
  /-- The second. -/
  second : Option Nat := none
  /-- The microsecond. -/
  microsecond : Option Nat := none
  /-- The half of the day. -/
  half : Option Nat := none
  /-- The name of the zone. -/
  zoneName : Option String := none
  /-- The distance of the zone from universal time in seconds. -/
  offset : Option Int := none
  deriving Repr

/-- The words that mean nothing by themselves. -/
def fillers : List String :=
  [" ", ".", ",", ";", "-", "/", "'", "at", "on", "and", "ad", "m", "t", "of", "st", "nd", "rd",
   "th"]

/-- The names of the days of the week. -/
def weekdayNames : List (List String) :=
  [["mon", "monday"], ["tue", "tuesday"], ["wed", "wednesday"], ["thu", "thursday"],
   ["fri", "friday"], ["sat", "saturday"], ["sun", "sunday"]]

/-- The names of the months. -/
def monthNames : List (List String) :=
  [["jan", "january"], ["feb", "february"], ["mar", "march"], ["apr", "april"], ["may"],
   ["jun", "june"], ["jul", "july"], ["aug", "august"], ["sep", "sept", "september"],
   ["oct", "october"], ["nov", "november"], ["dec", "december"]]

/-- The names of the parts of a clock time. -/
def clockNames : List (List String) :=
  [["h", "hour", "hours"], ["m", "minute", "minutes"], ["s", "second", "seconds"]]

/-- The names of the halves of the day. -/
def halfNames : List (List String) :=
  [["am", "a"], ["pm", "p"]]

/-- The position of the list of names that holds a word, whatever its case. -/
def nameIndex? (names : List (List String)) (word : String) : Option Nat :=
  names.findIdx? fun ns => ns.contains (lowerString word)

/-- Whether a word means nothing by itself. -/
def isFiller (word : String) : Bool :=
  fillers.contains (lowerString word)

/-- The month that a word names, from 1. -/
def month? (word : String) : Option Nat :=
  (nameIndex? monthNames word).map (· + 1)

/-- Whether a word is a name of universal time. -/
def isUniversalName (word : String) : Bool :=
  ["utc", "gmt", "z"].contains (lowerString word)

/-- Whether a word may name a zone: a clock time is known, no zone is, and the word is short and in
capitals. -/
def couldBeZone (d : Draft) (offset : Option Int) (word : String) : Bool :=
  d.hour.isSome && d.zoneName.isNone && offset.isNone && word.length ≤ 5 &&
    (word.toList.all (fun c => 'A' ≤ c && c ≤ 'Z') || ["UTC", "GMT", "Z", "z"].contains word)

/-- An hour of twelve as one of twenty-four. -/
def adjustHour (hour half : Nat) : Nat :=
  if hour < 12 && half = 1 then hour + 12 else if hour = 12 && half = 0 then 0 else hour

/-- The number that a text of digits writes. -/
def wholeNumber? (s : List Char) : Option Nat :=
  if s.isEmpty || !s.all isDigit then none else some (Decimal.digitsValue s)

/-- The decimal number that a token writes. -/
def tokenNumber? (token : String) : Option Decimal :=
  let s := token.toList
  if s.all fun c => isDigit c || c = '.' then Decimal.read? s else none

/-- Whether a token is the name of a number that has no digits. -/
def isNamelessNumber (token : String) : Bool :=
  ["nan", "inf", "infinity"].contains (lowerString token)

/-- The integral part of a number. -/
def wholePart (d : Decimal) : Nat :=
  d.coefficient / tenTo (-d.exponent).toNat

/-- The number of digits that fractions are computed with. -/
def precision : Nat := 28

/-- A number with no more digits than fractions are computed with. -/
def rounded (d : Decimal) : Decimal :=
  let excess := Decimal.digitCount d.coefficient - precision
  if excess = 0 then d
  else
    { d with
      coefficient := Binary64.roundDiv d.coefficient (tenTo excess)
      exponent := d.exponent + excess }

/-- Sixty times the fractional part of a number, rounded down; nothing if there is none. -/
def sixtieths? (d : Decimal) : Except Fault (Option Nat) :=
  let scale := tenTo (-d.exponent).toNat
  if wholePart d ≥ tenTo precision then .error .impossibleDivision
  else
    let fraction := rounded { d with coefficient := d.coefficient % scale }
    .ok (if fraction.coefficient = 0 then none
      else some (wholePart (rounded { fraction with coefficient := 60 * fraction.coefficient })))

/-- The seconds and microseconds that a token writes. -/
def readSeconds? (s : List Char) : Option (Nat × Nat) :=
  match s.span (· ≠ '.') with
  | (whole, []) => (wholeNumber? whole).map (·, 0)
  | (whole, _ :: part) => do
    let seconds ← wholeNumber? whole
    let micros ← wholeNumber? ((part ++ List.replicate (6 - part.length) '0').take 6)
    if part.contains '.' then none else some (seconds, micros)

/-- Where the name of a part of the clock stands that belongs to the number at `i`: after it, after
a blank, before it, or, at the end, before a blank. -/
def clockNameAt? (ts : Array String) (i : Nat) : Option Nat :=
  let isName (k : Nat) : Bool := (ts[k]?).any fun t => (nameIndex? clockNames t).isSome
  if isName (i + 1) then some (i + 1)
  else if ts[i + 1]? = some " " && isName (i + 2) then some (i + 2)
  else if 0 < i && isName (i - 1) then some (i - 1)
  else if 1 < i && i + 1 = ts.size && ts[i - 1]? = some " " && isName (i - 2) then some (i - 2)
  else none

/-- The draft with a number put into a part of the clock. -/
def putClock (d : Draft) (token : String) (value : Decimal) : Nat → Reading Draft
  | 0 => do
    let e := { d with hour := some (wholePart value) }
    match ← OptionT.lift (sixtieths? value) with
    | some m => return { e with minute := some m }
    | none => return e
  | 1 => do
    let second ← OptionT.lift (sixtieths? value)
    return { d with minute := some (wholePart value), second }
  | 2 => do
    let (second, micros) ← readSeconds? token.toList
    return { d with second := some second, microsecond := some micros }
  | _ => return d

/-- Take a number with a separator after it, which may begin two or three numbers or a month name
of a date. -/
def takeSeparated? (ts : Array String) (i : Nat) (d : Draft) : Option (Nat × Draft) := do
  let sep ← ts[i + 1]?
  let parts ← d.parts.pushText? (← ts[i]?).toList none
  match ts[i + 2]? with
  | none => some (i + 1, { d with parts })
  | some second =>
    if isFiller second then some (i + 1, { d with parts })
    else
      let parts ←
        if !second.isEmpty && second.toList.all isDigitLike then parts.pushText? second.toList none
        else (month? second).bind fun m => parts.push? m (some .month)
      if ts[i + 3]? = some sep then
        let third ← ts[i + 4]?
        let parts ←
          match month? third with
          | some m => parts.push? m (some .month)
          | none => parts.pushText? third.toList none
        some (i + 4, { d with parts })
      else some (i + 2, { d with parts })

/-- Take the digits of a number that has no signs around it, whose number of digits tells what they
are: a clock time after a complete date, a short or a long date, or both. Nothing is taken of other
numbers. -/
def takeDigits? (s : List Char) (isUnnamed : Bool) (d : Draft) : Option (Option Draft) :=
  let n := s.length
  if d.parts.numbers.length = 3 && (n = 2 || n = 4) && d.hour.isNone && isUnnamed then do
    let hour ← wholeNumber? (s.take 2)
    if n = 4 then
      let minute ← wholeNumber? (s.drop 2)
      some (some { d with hour := some hour, minute := some minute })
    else some (some { d with hour := some hour })
  else if n = 6 || (n > 6 && s.findIdx? (· = '.') = some 6) then
    if d.parts.numbers.isEmpty && !s.contains '.' then do
      let parts ← d.parts.pushText? (s.take 2) none
      let parts ← parts.pushText? ((s.drop 2).take 2) none
      let parts ← parts.pushText? (s.drop 4) none
      some (some { d with parts })
    else do
      let hour ← wholeNumber? (s.take 2)
      let minute ← wholeNumber? ((s.drop 2).take 2)
      let (second, micros) ← readSeconds? (s.drop 4)
      some (some { d with
        hour := some hour, minute := some minute, second := some second
        microsecond := some micros })
  else if n = 8 || n = 12 || n = 14 then do
    let parts ← d.parts.pushText? (s.take 4) (some .year)
    let parts ← parts.pushText? ((s.drop 4).take 2) none
    let parts ← parts.pushText? ((s.drop 6).take 2) none
    let d := { d with parts }
    if n = 8 then some (some d)
    else
      let hour ← wholeNumber? ((s.drop 8).take 2)
      let minute ← wholeNumber? ((s.drop 10).take 2)
      let d := { d with hour := some hour, minute := some minute }
      if n = 12 then some (some d)
      else
        let second ← wholeNumber? (s.drop 12)
        some (some { d with second := some second })
  else some none

/-- Take the number at `i`, which has a value: a clock time with colons, a date with separators, an
hour with the half of the day after it, or a part of a date. -/
def takeValue (ts : Array String) (i : Nat) (value : Decimal) (d : Draft) :
    Reading (Nat × Draft) := do
  let next := ts[i + 1]?
  let asPart (k : Nat) : Reading (Nat × Draft) := do
    let parts ← d.parts.pushValue? value
    return (k, { d with parts })
  let asHour (k half : Nat) : Reading (Nat × Draft) :=
    return (k, { d with hour := some (adjustHour (wholePart value) half) })
  if next = some ":" && (ts[i + 2]?).isSome then
    let minutes ← (ts[i + 2]?).bind tokenNumber?
    let second ← OptionT.lift (sixtieths? minutes)
    let d := { d with
      hour := some (wholePart value)
      minute := some (wholePart minutes)
      second }
    match ts[i + 3]?, ts[i + 4]? with
    | some ":", some seconds =>
      let (second, micros) ← readSeconds? seconds.toList
      return (i + 4, { d with second := some second, microsecond := some micros })
    | _, _ => return (i + 2, d)
  else if next = some "-" || next = some "/" || next = some "." then takeSeparated? ts i d
  else if next.all isFiller then
    match (ts[i + 2]?).bind (nameIndex? halfNames) with
    | some half => asHour (i + 2) half
    | none => asPart (i + 1)
  else
    match next.bind (nameIndex? halfNames) with
    | some half =>
      if wholePart value < 24 then asHour (i + 1) half
      else if d.parts.couldBeDay value then asPart i
      else failure
    | none => if d.parts.couldBeDay value then asPart i else failure

/-- Take the number at `i`: the position of the last token that it uses, and the draft. -/
def takeNumber (ts : Array String) (i : Nat) (d : Draft) : Reading (Nat × Draft) := do
  let token ← ts[i]?
  let value ← tokenNumber? token
  let isUnnamed := (ts[i + 1]?).all fun t => t != ":" && (nameIndex? clockNames t).isNone
  match ← takeDigits? token.toList isUnnamed d with
  | some e => return (i, e)
  | none =>
    match clockNameAt? ts i with
    | some k =>
      let name ← (ts[k]?).bind (nameIndex? clockNames)
      let e ← putClock d token value (if i < k then name else name + 1)
      return (if i < k then k else i, e)
    | none => takeValue ts i value d

/-- Years of two digits are read around this year. It is fixed here, so that a text is always read
in the same way, and is not the year in which it is read. -/
def pivotYear : Nat := 2025

/-- A year as it is meant: one of two digits lies within fifty years of the pivot. -/
def meantYear (year : Nat) (hasCentury : Bool) : Nat :=
  if year < 100 && !hasCentury then
    let y := year + pivotYear / 100 * 100
    if y ≥ pivotYear + 50 then y - 100 else if y < pivotYear - 50 then y + 100 else y
  else year

/-- Take the name of a month at `i`, with a day or a year after it. -/
def takeMonth? (ts : Array String) (i month : Nat) (d : Draft) : Option (Nat × Draft) := do
  let parts ← d.parts.push? month (some .month)
  match ts[i + 1]? with
  | none => some (i, { d with parts })
  | some sep =>
    if sep = "-" || sep = "/" then
      let parts ← parts.pushText? (← ts[i + 2]?).toList none
      if ts[i + 3]? = some sep then
        let parts ← parts.pushText? (← ts[i + 4]?).toList none
        some (i + 4, { d with parts })
      else some (i + 2, { d with parts })
    else
      match ts[i + 2]?, ts[i + 3]?, ts[i + 4]? with
      | some pertain, some " ", some year =>
        if sep = " " && lowerString pertain = "of" then
          if !year.isEmpty && year.toList.all isDigitLike then do
            let n ← wholeNumber? year.toList
            let parts ← parts.pushText? (Decimal.digitChars (meantYear n false)) (some .year)
            some (i + 4, { d with parts })
          else some (i + 4, { d with parts })
        else some (i, { d with parts })
      | _, _, _ => some (i, { d with parts })

/-- Take the sign at `i` with the distance from universal time that follows it. -/
def takeOffset? (ts : Array String) (i : Nat) (d : Draft) : Option (Nat × Draft) := do
  let sign : Int := if ts[i]? = some "+" then 1 else -1
  let digits := (← ts[i + 1]?).toList
  let (hours, minutes, i) ←
    if digits.length = 4 then do
      some (← wholeNumber? (digits.take 2), ← wholeNumber? (digits.drop 2), i)
    else if ts[i + 2]? = some ":" then do
      some (← wholeNumber? digits, ← (ts[i + 3]?).bind fun t => wholeNumber? t.toList, i + 2)
    else if digits.length ≤ 2 then do
      some (← wholeNumber? digits, 0, i)
    else none
  let d := { d with offset := some (sign * (hours * 3600 + minutes * 60 : Nat)) }
  match ts[i + 2]?, ts[i + 3]?, ts[i + 4]?, ts[i + 5]? with
  | some filler, some "(", some name, some ")" =>
    if isFiller filler && 3 ≤ name.length && couldBeZone d none name then
      some (i + 5, { d with zoneName := some name })
    else some (i + 1, d)
  | _, _, _, _ => some (i + 1, d)

/-- Take the token at `i`: the position after the last token that it uses, the tokens, of which a
sign may be turned, and the draft. -/
def takeToken (ts : Array String) (i : Nat) (token : String) (d : Draft) :
    Reading (Nat × Array String × Draft) := do
  if isNamelessNumber token then failure
  else if (tokenNumber? token).isSome then
    let (k, e) ← takeNumber ts i d
    return (k + 1, ts, e)
  else
    match nameIndex? weekdayNames token, month? token, nameIndex? halfNames token with
    | some w, _, _ => return (i + 1, ts, { d with weekday := some w })
    | none, some m, _ =>
      let (k, e) ← takeMonth? ts i m d
      return (k + 1, ts, e)
    | none, none, some half =>
      let hour ← d.hour
      if hour ≤ 12 then
        return (i + 1, ts, { d with hour := some (adjustHour hour half), half := some half })
      else failure
    | none, none, none =>
      let next := ts[i + 1]?
      if couldBeZone d d.offset token then
        let offset := if token = "z" then some (0 : Int) else none
        if next = some "+" || next = some "-" then
          -- After the name of a zone a sign means the opposite.
          let turned := if next = some "+" then "-" else "+"
          let zoneName := if isUniversalName token then none else some token
          return (i + 1, ts.set! (i + 1) turned, { d with offset := none, zoneName })
        else return (i + 1, ts, { d with zoneName := some token, offset })
      else if d.hour.isSome && (token = "+" || token = "-") then
        let (k, e) ← takeOffset? ts i d
        return (k + 1, ts, e)
      else if isFiller token then return (i + 1, ts, d)
      else failure

/-- Read the tokens from position `i` on: `fuel` bounds their number. -/
def readFrom : Nat → Array String → Nat → Draft → Reading Draft
  | 0, _, _, _ => failure
  | fuel + 1, ts, i, d =>
    match ts[i]? with
    | none => return d
    | some token => do
      let (k, ts, e) ← takeToken ts i token d
      readFrom fuel ts k e

/-- What all tokens of a text say. -/
def readDraft (s : List Char) : Reading Draft :=
  let ts := (tokens s).toArray
  readFrom (ts.size + 1) ts 0 {}

/-- Whether a number of seconds is a span of time: one of fewer than 10^9 days. -/
def isSpan (seconds : Int) : Bool :=
  -86399999913600 ≤ seconds && seconds < 86400000000000

/-- The zone that a draft names, or none: universal time by its name, by a distance of zero, or
another distance. A name alone that is not one of universal time is passed over. Nothing comes of a
distance that is no span of time. -/
def Draft.zone? (d : Draft) : Option (Option Zone) :=
  let (name, offset) :=
    if (d.offset = some 0 && d.zoneName.isNone) || d.zoneName = some "Z" || d.zoneName = some "z"
    then (some "UTC", some 0)
    else if d.offset ≠ some 0 && d.zoneName.any isUniversalName then (d.zoneName, some 0)
    else (d.zoneName, d.offset)
  if name = some "UTC" then some (some .here)
  else
    match offset with
    | some 0 => some (some .looseUniversal)
    | some seconds => if isSpan seconds then some (some (.looseOffset name seconds)) else none
    | none => some none

/-- Whether nothing has been read. -/
def Draft.isBlank (d : Draft) (date : Parts.Resolved) : Bool :=
  date = (none, none, none) && d.weekday.isNone && d.hour.isNone && d.minute.isNone &&
    d.second.isNone && d.microsecond.isNone && d.half.isNone && d.zoneName.isNone &&
    d.offset.isNone

/-- The moment that a draft names if the parts that it leaves out are those of the first of January
of a year. -/
def Draft.moment? (d : Draft) (defaultYear : Nat) : Option Moment := do
  let (year, month, day) ← d.parts.resolve?
  if d.isBlank (year, month, day) then none
  let y := (year.map (meantYear · d.parts.hasCentury)).getD defaultYear
  let m := month.getD 1
  let dayOfMonth := day.getD 1
  let hour := d.hour.getD 0
  let minute := d.minute.getD 0
  let second := d.second.getD 0
  let micros := d.microsecond.getD 0
  if isDate y m dayOfMonth && hour < 24 && minute < 60 && second < 60 && micros < 1000000 then
    let (y, m, dayOfMonth) ←
      match d.weekday, day with
      | some w, none =>
        let n := dayNumber y m dayOfMonth
        let moved := n + (7 - (n + 6) % 7 + w) % 7
        if moved ≤ 3652059 then some (ofDayNumber moved) else none
      | _, _ => some (y, m, dayOfMonth)
    some ⟨y, m, dayOfMonth, hour, minute, second, micros, ← d.zone?⟩
  else none

/-- The moment that a text names; the text has to name its year. -/
def readLoose (s : List Char) : Reading Moment := do
  let d ← readDraft s
  let first ← d.moment? 2000
  let second ← d.moment? 2001
  if first = second then return first else failure

end Extraction.Calendar
