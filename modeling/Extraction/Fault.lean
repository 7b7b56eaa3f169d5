import Extraction.Value

/-!
# Faults of functions and engines

A fault is why a function, a conversion or an engine gave no value. Each cause is a constructor;
its kind and its wording follow from it.

## Main definitions

* `Fault` : the causes.
* `Fault.kind`, `Fault.message` : the kind and the wording of a fault.
* `Reading` : readings that find something, find nothing, or break off with a fault.
-/

namespace Extraction

/-- What kind of mistake a fault reports. -/
inductive FaultKind where
  | value
  | type
  | overflow
  | runtime
  | member
  | unsupported
  | lookup
  | decoding
  | encoding
  | position
  | key
  | arithmetic
  | rejection
  deriving DecidableEq, Repr

/-- Why a function, a conversion or an engine gave no value. -/
inductive Fault where
  /-- A function was given more arguments than it takes. -/
  | tooManyArguments (function : String) (least most given : Nat)
  /-- A function was not given an argument that it needs. -/
  | missingArgument (function argument : String)
  /-- A value that is no function was called. -/
  | notCallable (kind : String)
  /-- A text does not write an integer. -/
  | badInteger (literal : String)
  /-- A text writes an integer of more digits than are read. -/
  | integerTooLong (digits : Nat)
  /-- An integer has more digits than are written. -/
  | integerNotWritten
  /-- An integer lies beyond the double-precision range. -/
  | integerTooLarge
  /-- An infinite number has no integer below it. -/
  | infiniteNumber
  /-- A count of decimal places is not a natural number. -/
  | placesMissing
  /-- A count of decimal places is beyond what is written. -/
  | tooManyPlaces
  /-- A count of decimal places is beyond what is read. -/
  | endlessPlaces
  /-- A value of this kind has no such operation. -/
  | noOperation (kind operation : String)
  /-- An argument is of the wrong kind. -/
  | argumentKind (function : String) (position : Nat) (kind : String)
  /-- Bytes were to be changed by a text. -/
  | textAmongBytes
  /-- A text was given where an integer is needed. -/
  | textAsInteger
  /-- A separator is of the wrong kind. -/
  | separatorKind (kind : String)
  /-- A pattern is not a text. -/
  | patternKind
  /-- A pattern of bytes is looked for in a text. -/
  | bytesPattern
  /-- A value of this kind cannot be looked up. -/
  | notLookedUp (kind : String)
  /-- A value of this kind has no items. -/
  | notIterable (kind : String)
  /-- No item of a list stands at a position. -/
  | noSuchItem
  /-- A value of this kind has no length. -/
  | noLength (kind : String)
  /-- A value of this kind cannot be put after a text. -/
  | notAppendable (kind : String)
  /-- The distance of a zone from universal time is a day or more. -/
  | offsetTooLarge
  /-- A number has more digits before its point than a remainder is computed for. -/
  | impossibleDivision
  /-- A selector names a part of an element that is not a node. -/
  | pseudoElement (position : Nat)
  /-- A selector has a rule for whole pages in it. -/
  | pageRule (position : Nat)
  /-- A code is beyond that of the last character. -/
  | noSuchCharacter
  /-- The weeks are counted of a year that has not four digits. -/
  | weekYear (year : Nat)
  /-- A marked section has a name that none has. -/
  | unknownSection (name : List Char)
  /-- A marked section has no name; the text from its opening on is cited. -/
  | namelessSection (opening : List Char)
  /-- The host of an address is not well formed. -/
  | badHost
  /-- The host of an address has characters that change under normalization. -/
  | unstableHost (host : String)
  /-- What stands in brackets is no numeric host. -/
  | badNumericHost (host : String)
  /-- What stands in brackets is a numeric host of the old kind. -/
  | oldNumericHost
  /-- What stands in brackets is not a numeric host of a later kind. -/
  | laterNumericHost
  /-- No character encoding has the name. -/
  | unknownEncoding (name : String)
  /-- A character encoding is not one of texts. -/
  | notTextEncoding (name : String)
  /-- A character encoding cannot be used for reading pages. -/
  | unusableEncoding (name reason : String)
  /-- Bytes from a position to another one, of which the first is cited, are no text. -/
  | undecodable (first : UInt8) (start stop : Nat) (reason : String)
  /-- A byte at a position is none of ASCII. -/
  | beyondAscii (byte : UInt8) (position : Nat)
  /-- A name has a character of code zero in it. -/
  | nullInName
  /-- A path has a character of code zero in it. -/
  | nullInPath
  /-- Nothing is kept under a name. -/
  | nothingKept (name : String)
  /-- The log level has no such name. -/
  | unknownLevel (level : Value)
  /-- A fault that a given function reports in its own words. -/
  | reported (kind : FaultKind) (text : String)
  deriving Repr

namespace Fault

/-- The kind of a fault. -/
def kind : Fault → FaultKind
  | .tooManyArguments .. | .missingArgument .. | .notCallable _ => .type
  | .badInteger _ | .integerTooLong _ | .integerNotWritten => .value
  | .integerTooLarge | .infiniteNumber => .overflow
  | .placesMissing | .tooManyPlaces | .endlessPlaces => .value
  | .noOperation .. => .member
  | .argumentKind .. | .textAmongBytes | .textAsInteger | .separatorKind _ | .patternKind
  | .bytesPattern | .notLookedUp _ | .notIterable _ | .noLength _ | .notAppendable _ => .type
  | .noSuchItem => .position
  | .offsetTooLarge => .value
  | .impossibleDivision => .arithmetic
  | .pseudoElement _ | .pageRule _ => .unsupported
  | .noSuchCharacter | .weekYear _ => .value
  | .unknownSection _ | .namelessSection _ => .rejection
  | .badHost | .unstableHost _ | .badNumericHost _ | .oldNumericHost | .laterNumericHost => .value
  | .unknownEncoding _ | .notTextEncoding _ => .lookup
  | .unusableEncoding .. => .encoding
  | .undecodable .. | .beyondAscii .. => .decoding
  | .nullInName | .nullInPath => .value
  | .nothingKept _ => .key
  | .unknownLevel _ => .value
  | .reported kind _ => kind

/-- The name of a kind as messages about arguments give it: the empty value goes by its name. -/
def argumentKindName (kind : String) : String :=
  if kind = "NoneType" then "None" else kind

/-- The wording of a reader's refusal of markup, for a reason in its own words. -/
def rejectionMessage (reason : String) : String :=
  "The markup you provided was rejected by the parser. Trying a different parser or a different " ++
    "encoding may help.\n\nOriginal error(s) from parser:\n AssertionError: " ++ reason

/-- The wording of a fault about the weeks of a year: a date is read in which the year should have
four digits, and digits that follow the fourth are left over. -/
def weekYearMessage (year : Nat) : String :=
  let digits := toString year
  if year > 9999 then "unconverted data remains: " ++ String.ofList (digits.toList.drop 4)
  else "time data '12-31-" ++ digits ++ "' does not match format '%m-%d-%Y'"

/-- The wording of a fault. -/
def message : Fault → String
  | .tooManyArguments function least most given =>
    function ++ "() takes " ++
      (if least = most then toString most else "from " ++ toString least ++ " to " ++ toString most)
      ++ " positional argument" ++ (if most = 1 then "" else "s") ++
      " but " ++ toString given ++ (if given = 1 then " was given" else " were given")
  | .missingArgument function argument =>
    function ++ "() missing 1 required positional argument: '" ++ argument ++ "'"
  | .notCallable kind => "'" ++ kind ++ "' object is not callable"
  | .badInteger literal =>
    "invalid literal for int() with base 10: " ++
      String.ofList ((Text.quotedChars literal.toList).take 200)
  | .integerTooLong digits =>
    "Exceeds the limit (4300 digits) for integer string conversion: value has " ++
      toString digits ++ " digits; use sys.set_int_max_str_digits() to increase the limit"
  | .integerNotWritten =>
    "Exceeds the limit (4300 digits) for integer string conversion; " ++
      "use sys.set_int_max_str_digits() to increase the limit"
  | .integerTooLarge => "int too large to convert to float"
  | .infiniteNumber => "cannot convert float infinity to integer"
  | .placesMissing => "Format specifier missing precision"
  | .tooManyPlaces => "precision too big"
  | .endlessPlaces => "Too many decimal digits in format string"
  | .noOperation kind operation =>
    "'" ++ kind ++ "' object has no attribute '" ++ operation ++ "'"
  | .argumentKind function position kind =>
    function ++ "() argument " ++ toString position ++ " must be str, not " ++
      argumentKindName kind
  | .textAmongBytes => "a bytes-like object is required, not 'str'"
  | .textAsInteger => "'str' object cannot be interpreted as an integer"
  | .separatorKind kind => "must be str or None, not " ++ kind
  | .patternKind => "first argument must be string or compiled pattern"
  | .bytesPattern => "cannot use a bytes pattern on a string-like object"
  | .notLookedUp kind => "unhashable type: '" ++ kind ++ "'"
  | .noSuchItem => "list index out of range"
  | .noLength kind => "object of type '" ++ kind ++ "' has no len()"
  | .notIterable kind => "'" ++ kind ++ "' object is not iterable"
  | .notAppendable kind => "can only concatenate str (not \"" ++ kind ++ "\") to str"
  | .offsetTooLarge =>
    "offset must be a timedelta strictly between -timedelta(hours=24) and timedelta(hours=24)."
  | .impossibleDivision => "[<class 'decimal.DivisionImpossible'>]"
  | .pseudoElement position => "Pseudo-element found at position " ++ toString position
  | .pageRule position => "At-rules found at position " ++ toString position
  | .noSuchCharacter => "chr() arg not in range(0x110000)"
  | .weekYear year => weekYearMessage year
  | .unknownSection name =>
    rejectionMessage
      ("unknown status keyword " ++ String.ofList (Text.quotedChars name) ++ " in marked section")
  | .namelessSection opening =>
    rejectionMessage ("expected name token at " ++ String.ofList (Text.quotedChars opening))
  | .badHost => "Invalid IPv6 URL"
  | .unstableHost host =>
    "netloc '" ++ host ++ "' contains invalid characters under NFKC normalization"
  | .badNumericHost host =>
    Text.quoted host ++ " does not appear to be an IPv4 or IPv6 address"
  | .oldNumericHost => "An IPv4 address cannot be in brackets"
  | .laterNumericHost => "IPvFuture address is invalid"
  | .unknownEncoding name => "unknown encoding: " ++ name
  | .unusableEncoding name reason =>
    "decoding with '" ++ name ++ "' codec failed (UnicodeError: " ++ reason ++ ")"
  | .undecodable first start stop reason =>
    "'utf-8' codec can't decode " ++
      (if stop = start + 1 then
        "byte 0x" ++ String.ofList (Text.hexDigits 2 first.toNat) ++ " in position " ++
          toString start
      else "bytes in position " ++ toString start ++ "-" ++ toString (stop - 1)) ++ ": " ++ reason
  | .beyondAscii byte position =>
    "'ascii' codec can't decode byte 0x" ++ String.ofList (Text.hexDigits 2 byte.toNat) ++
      " in position " ++ toString position ++ ": ordinal not in range(128)"
  | .nullInName => "embedded null character"
  | .nullInPath => "embedded null byte"
  | .nothingKept name => Text.quoted name
  | .notTextEncoding name =>
    "'" ++ name ++
      "' is not a text encoding; use codecs.decode() to handle arbitrary codecs"
  | .unknownLevel level => "Unknown log level " ++ level.quoted
  | .reported _ text => text

end Fault

/-- A reading: it finds something, it finds nothing, or it breaks off with a fault. -/
abbrev Reading := OptionT (Except Fault)

/-- What may be missing, as a reading. -/
instance : MonadLift Option Reading where
  monadLift found := OptionT.mk (.ok found)

/-- Why a moment cannot be written, if it cannot: its zone is a day or more from universal time. -/
def Moment.writeFault? (m : Moment) : Option Fault :=
  match m.zone with
  | some zone => if zone.micros.natAbs < 86400000000 then none else some .offsetTooLarge
  | none => none

namespace Value

mutual

/-- Why a value cannot be written, if it cannot: the first moment in it that cannot be. -/
def writeFault? : Value → Option Fault
  | .moment m => m.writeFault?
  | .list items => itemsWriteFault? items
  | .tuple items => itemsWriteFault? items
  | .map entries => entriesWriteFault? entries
  | _ => none

/-- Why a list of values cannot be written, if it cannot. -/
def itemsWriteFault? : List Value → Option Fault
  | [] => none
  | v :: rest => (writeFault? v).orElse fun _ => itemsWriteFault? rest

/-- Why the entries of a map cannot be written, if they cannot. -/
def entriesWriteFault? : List (Value × Value) → Option Fault
  | [] => none
  | (_, v) :: rest => (writeFault? v).orElse fun _ => entriesWriteFault? rest

end

end Value

end Extraction
