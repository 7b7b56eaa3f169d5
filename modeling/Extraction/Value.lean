import Extraction.Calendar.Moment

/-!
# Values

Rules, filter arguments and results are values of one type: the data that a rule file can hold, the
moments that dates are read as, and references to functions. A map keeps its entries in the order
of their first insertion.

## Main definitions

* `Value` : the type of values.
* `Value.kind` : the name of the kind of a value.
* `Value.equal` : equality of values, under which truth values, integers and double-precision
  numbers are compared as numbers and the order of a map's entries does not matter.
* `Value.quoted`, `Value.written` : a value as messages cite it, and as a plain text.
* `Entries.insert` : a map with one more entry, or with the value of an entry replaced.
-/

namespace Extraction

/-- A value. -/
inductive Value where
  | null
  | bool (b : Bool)
  | int (n : Int)
  | float (x : Binary64)
  | text (s : String)
  | bytes (bs : List UInt8)
  | moment (m : Moment)
  | list (items : List Value)
  | tuple (items : List Value)
  | set (items : List Value)
  | map (entries : List (Value × Value))
  /-- A reference to a function by its name, with the values that it has captured. -/
  | function (name : String) (captured : List Value)
  deriving Inhabited, Repr

/-- The entries of a map, in the order of their first insertion. -/
abbrev Entries := List (Value × Value)

namespace Value

/-- The name of the kind of a value. -/
def kind : Value → String
  | .null => "NoneType"
  | .bool _ => "bool"
  | .int _ => "int"
  | .float _ => "float"
  | .text _ => "str"
  | .bytes _ => "bytes"
  | .moment _ => "datetime"
  | .list _ => "list"
  | .tuple _ => "tuple"
  | .set _ => "set"
  | .map _ => "dict"
  | .function .. => "Fn"

/-- Whether a value is a function. -/
def isFunction : Value → Bool
  | .function .. => true
  | _ => false

/-- Whether a value is a list or a tuple. -/
def isSequence : Value → Bool
  | .list _ | .tuple _ => true
  | _ => false

mutual

/-- What keeps a value from being looked up, if anything: the kind of the first list, set or map
that it is or holds in tuples. -/
def lookupObstacle? : Value → Option String
  | .list _ => some "list"
  | .set _ => some "set"
  | .map _ => some "dict"
  | .tuple items => firstObstacle? items
  | _ => none

/-- What keeps several values from being looked up, if anything. -/
def firstObstacle? : List Value → Option String
  | [] => none
  | v :: rest => (lookupObstacle? v).or (firstObstacle? rest)

end

/-- An integer or a double-precision number. -/
inductive Number where
  | int (n : Int)
  | float (x : Binary64)
  deriving DecidableEq, Repr

/-- The order of two numbers, by their exact values. -/
def Number.compare? : Number → Number → Option Ordering
  | .int a, .int b => some (compare a b)
  | .int a, .float y => (y.compareInt? a).map Ordering.swap
  | .float x, .int b => x.compareInt? b
  | .float x, .float y => x.compare? y

/-- A truth value, an integer or a double-precision number as a number. -/
def number? : Value → Option Number
  | .bool b => some (.int (if b then 1 else 0))
  | .int n => some (.int n)
  | .float x => some (.float x)
  | _ => none

/-- Whether two numbers are equal. -/
def Number.equal (a b : Number) : Bool :=
  a.compare? b == some .eq

mutual

/-- Whether two values are equal. -/
def equal : Value → Value → Bool
  | .null, .null => true
  | .bool a, v =>
    match v.number? with
    | some n => Number.equal (.int (if a then 1 else 0)) n
    | none => false
  | .int a, v =>
    match v.number? with
    | some n => Number.equal (.int a) n
    | none => false
  | .float a, v =>
    match v.number? with
    | some n => Number.equal (.float a) n
    | none => false
  | .text a, .text b => a == b
  | .bytes a, .bytes b => a == b
  | .moment a, .moment b => a.equal b
  | .list a, .list b => equalItems a b
  | .tuple a, .tuple b => equalItems a b
  | .set a, .set b => a.length == b.length && itemsWithin a b
  | .map a, .map b => a.length == b.length && entriesWithin a b
  | .function f a, .function g b => f == g && equalItems a b
  | _, _ => false

/-- Whether two lists of values are equal item by item. -/
def equalItems : List Value → List Value → Bool
  | [], [] => true
  | a :: as, b :: bs => equal a b && equalItems as bs
  | _, _ => false

/-- Whether every item of one list equals some item of another. -/
def itemsWithin : List Value → List Value → Bool
  | [], _ => true
  | a :: as, bs => bs.any (equal a) && itemsWithin as bs

/-- Whether every entry of one map equals some entry of another. -/
def entriesWithin : List (Value × Value) → List (Value × Value) → Bool
  | [], _ => true
  | (k, v) :: rest, es => es.any (fun e => equal k e.1 && equal v e.2) && entriesWithin rest es

end

/-- The name of a truth value. -/
def boolName (b : Bool) : String :=
  if b then "True" else "False"

mutual

/-- A value as messages cite it. -/
def quoted : Value → String
  | .null => "None"
  | .bool b => boolName b
  | .int n => toString n
  | .float x => x.written
  | .text s => Text.quoted s
  | .bytes bs => Text.quotedBytes bs
  | .moment m => m.quoted
  | .list items => "[" ++ ", ".intercalate (quotedItems items) ++ "]"
  | .tuple [item] => "(" ++ quoted item ++ ",)"
  | .tuple items => "(" ++ ", ".intercalate (quotedItems items) ++ ")"
  | .set [] => "set()"
  | .set items => "\x7b" ++ ", ".intercalate (quotedItems items) ++ "\x7d"
  | .map entries => "\x7b" ++ ", ".intercalate (quotedEntries entries) ++ "\x7d"
  | .function name _ => "<fn " ++ name ++ ">"

/-- The items of a list as messages cite them. -/
def quotedItems : List Value → List String
  | [] => []
  | v :: rest => quoted v :: quotedItems rest

/-- The entries of a map as messages cite them. -/
def quotedEntries : List (Value × Value) → List String
  | [] => []
  | (k, v) :: rest => (quoted k ++ ": " ++ quoted v) :: quotedEntries rest

end

/-- A value as a plain text: a text is itself, a moment has a space between date and time, and
any other value is as messages cite it. -/
def written : Value → String
  | .text s => s
  | .moment m => m.written
  | v => v.quoted

end Value

namespace Entries

/-- The value of a key. -/
def get? (es : Entries) (key : Value) : Option Value :=
  (es.find? fun e => e.1.equal key).map Prod.snd

/-- The value of a key that is a text. -/
def getText? (es : Entries) (key : String) : Option Value :=
  es.get? (.text key)

/-- A map with a value under a key: a key that is present keeps its place. -/
def insert : Entries → Value → Value → Entries
  | [], key, v => [(key, v)]
  | (k, w) :: rest, key, v =>
    if k.equal key then (k, v) :: rest else (k, w) :: insert rest key v

/-- A map with the entries of another put in one after another. -/
def union (es extra : Entries) : Entries :=
  extra.foldl (fun acc e => acc.insert e.1 e.2) es

end Entries

end Extraction
