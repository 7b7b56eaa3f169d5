import Extraction.Filter.Dates
import Extraction.Filter.Numeric
import Extraction.Filter.Patterns
import Extraction.Filter.Sequences
import Extraction.Filter.Sizes
import Extraction.Filter.Strings

/-!
# The registry of filters

A registry is the list of the built-in filters, overlaid with the entries of a caller. An entry
replaces the one of its name in its place; a new name goes to the end. A name whose entry is the
empty value is listed but has no filter.

## Main definitions

* `Filter.Builtin` : the built-in filters.
* `Filter.Builtin.run` : a built-in filter applied to a value and arguments.
* `Filter.Entry` : what stands under a name.
* `Registry` : the entries in order, with `Registry.merged`, `Registry.get?`, `Registry.names`.
-/

namespace Extraction

namespace Filter

/-- The built-in filters. -/
inductive Builtin where
  | toInteger
  | toFloat
  | toBool
  | trim
  | slice
  | reverse
  | regex
  | replace
  | split
  | join
  | capitalize
  | upper
  | lower
  | title
  | length
  | first
  | last
  | unique
  | sort
  | compact
  | number
  | date
  | size
  deriving DecidableEq, Repr

namespace Builtin

/-- The built-in filters in the order in which they are listed. -/
def all : List Builtin :=
  [toInteger, toFloat, toBool, trim, slice, reverse, regex, replace, split, join, capitalize,
    upper, lower, title, length, first, last, unique, sort, compact, number, date, size]

/-- The name of a built-in filter in queries. -/
def name : Builtin → String
  | toInteger => "int"
  | toFloat => "float"
  | toBool => "bool"
  | trim => "trim"
  | slice => "slice"
  | reverse => "reverse"
  | regex => "regex"
  | replace => "replace"
  | split => "split"
  | join => "join"
  | capitalize => "capitalize"
  | upper => "upper"
  | lower => "lower"
  | title => "title"
  | length => "length"
  | first => "first"
  | last => "last"
  | unique => "unique"
  | sort => "sort"
  | compact => "compact"
  | number => "number"
  | date => "date"
  | size => "size"

/-- The arguments that a built-in filter takes. -/
def arity (b : Builtin) : Arity :=
  match b with
  | toInteger => ⟨"to_int", [], 1⟩
  | toFloat => ⟨"to_float", [], 1⟩
  | toBool => ⟨"to_bool", [], 0⟩
  | slice => ⟨"slice_", [], 2⟩
  | regex => ⟨"regex", ["pattern"], 1⟩
  | replace => ⟨"replace", ["search"], 2⟩
  | split => ⟨"split", [], 2⟩
  | join | sort | number | date => ⟨b.name, [], 1⟩
  | _ => ⟨b.name, [], 0⟩

/-- A built-in filter applied to a value and as many arguments as it takes. -/
def apply [Engines] (b : Builtin) (v : Value) (arguments : List Value) : Reply :=
  match b with
  | toInteger => .ofExcept (Filter.toInteger v arguments)
  | toFloat => .ofExcept (Filter.toFloat v arguments)
  | toBool => .ok (Filter.toBool v)
  | trim => .ok (onText Text.trim v)
  | slice => .ofExcept (Filter.slice v arguments)
  | reverse => .ok (onText List.reverse v)
  | regex => allMatches v arguments
  | replace => Filter.replace v arguments
  | split => .ofExcept (Filter.split v arguments)
  | join => .ofExcept (Filter.join v arguments)
  | capitalize => .ok (onText Text.capitalize v)
  | upper => .ok (onText Text.upper v)
  | lower => .ok (onText Text.lower v)
  | title => .ok (onText titleCase v)
  | length => .ok (Filter.length v)
  | first => .ok (Filter.first v)
  | last => .ok (Filter.last v)
  | unique => .ofExcept (Filter.unique v)
  | sort => .ofExcept (Filter.sort v arguments)
  | compact => .ok (onItems (List.filter fun item => !isVoid item) v)
  | number => .ofExcept (Filter.number v arguments)
  | date => Filter.date v arguments
  | size => Filter.size v

/-- A built-in filter applied to a value and any arguments. -/
def run [Engines] (b : Builtin) (v : Value) (arguments : List Value) : Reply :=
  match b.arity.fault? arguments.length with
  | some f => .fail f
  | none => b.apply v arguments

/-- With as many arguments as it takes, a filter is applied. -/
theorem run_of_fault?_eq_none [Engines] {b : Builtin} {arguments : List Value}
    (h : b.arity.fault? arguments.length = none) (v : Value) :
    b.run v arguments = b.apply v arguments := by
  rw [run, h]

/-- The built-in filter of a name. -/
def ofName? (s : String) : Option Builtin :=
  all.find? fun b => b.name == s

end Builtin

/-- What stands under a name: a built-in filter or a value that a caller has put there. -/
inductive Entry where
  | builtin (b : Builtin)
  | given (v : Value)
  deriving Repr

end Filter

/-- Entries that a caller puts over the built-in filters, in order. -/
abbrev Overlay := List (String × Value)

/-- The filters of an evaluation by their names, in order. -/
@[ext] structure Registry where
  /-- The names with what stands under them. -/
  entries : List (String × Filter.Entry)
  /-- No name is listed twice. -/
  distinct : (entries.map Prod.fst).Nodup
  deriving Repr

namespace Registry

/-- Entries with one more: a name that is present keeps its place. -/
def insert : List (String × Filter.Entry) → String → Filter.Entry → List (String × Filter.Entry)
  | [], name, entry => [(name, entry)]
  | (other, old) :: rest, name, entry =>
    if other = name then (name, entry) :: rest else (other, old) :: insert rest name entry

/-- A new name goes to the end, and with any other one the names stay as they are. -/
theorem map_fst_insert (es : List (String × Filter.Entry)) (name : String) (entry : Filter.Entry) :
    (insert es name entry).map Prod.fst =
      if name ∈ es.map Prod.fst then es.map Prod.fst else es.map Prod.fst ++ [name] := by
  induction es with
  | nil => rfl
  | cons e es ih =>
    obtain ⟨other, old⟩ := e
    by_cases h : other = name
    · subst h
      simp [insert]
    · simp only [insert, if_neg h, List.map_cons, ih, List.mem_cons, Ne.symm h, false_or]
      split <;> rfl

/-- The registry with an entry put in. -/
def put (r : Registry) (name : String) (entry : Filter.Entry) : Registry where
  entries := insert r.entries name entry
  distinct := by
    rw [map_fst_insert]
    split
    · exact r.distinct
    · exact List.nodup_append.2 ⟨r.distinct, by simp, by grind⟩

/-- The built-in filters under their names. -/
def builtin : Registry where
  entries := Filter.Builtin.all.map fun b => (b.name, .builtin b)
  distinct := by decide

/-- The built-in filters with an overlay put over them. -/
def merged (overlay : Overlay) : Registry :=
  overlay.foldl (fun r e => r.put e.1 (.given e.2)) builtin

/-- The names in order. -/
def names (r : Registry) : List String :=
  r.entries.map Prod.fst

/-- Whether a name is listed. -/
def contains (r : Registry) (name : String) : Bool :=
  r.names.contains name

/-- The filter of a name: a name with the empty value has none. -/
def get? (r : Registry) (name : String) : Option Filter.Entry :=
  match r.entries.lookup name with
  | some (.given .null) => none
  | found => found

end Registry

end Extraction
