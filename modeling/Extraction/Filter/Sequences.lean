import Extraction.Filter.Reply
import Extraction.Value.Comparison
import Extraction.Value.Plain

/-!
# Filters of lists

## Main definitions

* `Filter.length`, `Filter.first`, `Filter.last` : the size and the ends of a text or a list.
* `Filter.distinct`, `Filter.unique` : the first of all equal items.
* `Filter.SortKey`, `Filter.sortItems` : numbers, then texts, then other values by their texts, then
  missing values, in a stable order.
* `Filter.compact` : the items that are neither missing, empty, zero nor not-a-number.
-/

namespace Extraction.Filter

/-- The number of characters or items of a value. -/
def length : Value → Value
  | .text s => .int s.toList.length
  | .list items | .tuple items => .int items.length
  | v => v

/-- The first character or item of a value; nothing if it has none. -/
def first : Value → Value
  | .text s => match s.toList with | c :: _ => .text (String.ofList [c]) | [] => .null
  | .list items | .tuple items => items.headD .null
  | v => v

/-- The last character or item of a value; nothing if it has none. -/
def last : Value → Value
  | .text s =>
    match s.toList.getLast? with
    | some c => .text (String.ofList [c])
    | none => .null
  | .list items | .tuple items => items.getLast?.getD .null
  | v => v

/-- The items that equal none of those kept before them, after those already kept. -/
def distinctAfter (kept : List Value) : List Value → List Value
  | [] => kept
  | v :: rest =>
    if kept.any fun k => k.equal v then distinctAfter kept rest
    else distinctAfter (kept ++ [v]) rest

/-- The first of all equal items of a list, in their order. -/
def distinct (items : List Value) : List Value :=
  distinctAfter [] items

/-- Why it cannot be told whether one of several items equals a value, if it cannot: they are compared
up to the first that does. -/
def seekFault? (v : Value) : List Value → Option Fault
  | [] => none
  | k :: rest =>
    (k.compareFault? v).orElse fun _ => if k.equal v then none else seekFault? v rest

/-- Why it cannot be told which items equal one of those kept before them, if it cannot. -/
def distinctFault? (kept : List Value) : List Value → Option Fault
  | [] => none
  | v :: rest =>
    (seekFault? v kept).orElse fun _ =>
      distinctFault? (if kept.any fun k => k.equal v then kept else kept ++ [v]) rest

/-- The first of all equal items of a list; any other value stays. -/
def unique : Value → Except Fault Value
  | .list items | .tuple items =>
    match distinctFault? [] items with
    | some f => .error f
    | none => .ok (.list (distinct items))
  | other => .ok other

/-- What the order of an item depends on. -/
inductive SortKey where
  | number (n : Value.Number)
  | text (s : String)
  | other (s : String)
  | missing
  deriving Repr

/-- The key of an item. -/
def sortKey (v : Value) : SortKey :=
  match v with
  | .null => .missing
  | .text s => .text s
  | other =>
    match other.number? with
    | some n => .number n
    | none => .other other.written

/-- The group of a key. -/
def SortKey.group : SortKey → Nat
  | .number _ => 0
  | .text _ => 1
  | .other _ => 2
  | .missing => 3

/-- Whether a key comes before another. -/
def SortKey.before (a b : SortKey) : Bool :=
  match a, b with
  | .number m, .number n => m.compare? n == some .lt
  | .text s, .text t => decide (s < t)
  | .other s, .other t => decide (s < t)
  | _, _ => decide (a.group < b.group)

section Insertion

variable {α : Type} (before : α → α → Bool)

/-- The length of the run that a list begins with, after an item: as long as items rise, or as long
as they strictly fall. -/
def runLength (falling : Bool) : α → List α → Nat
  | _, [] => 0
  | a, b :: rest => if before b a == falling then runLength falling b rest + 1 else 0

/-- The position among sorted items at which an item belongs: after all that do not come after it,
found by halving. -/
def place (x : α) (sorted : Array α) : Nat → Nat → Nat → Nat
  | 0, low, _ => low
  | fuel + 1, low, high =>
    if low < high then
      let middle := low + (high - low) / 2
      match sorted[middle]? with
      | some y =>
        if before x y then place x sorted fuel low middle
        else place x sorted fuel (middle + 1) high
      | none => low
    else low

/-- Sorted items with one more. -/
def insertItem (sorted : List α) (x : α) : List α :=
  let n := place before x sorted.toArray (sorted.length + 1) 0 sorted.length
  sorted.take n ++ x :: sorted.drop n

/-- A list in a stable order: the run that it begins with, turned if it falls, and then the other
items put in one after another. -/
def sortBy : List α → List α
  | [] => []
  | [a] => [a]
  | a :: b :: rest =>
    let falling := before b a
    let n := runLength before falling a (b :: rest) + 1
    let run := (a :: b :: rest).take n
    ((a :: b :: rest).drop n).foldl (insertItem before) (if falling then run.reverse else run)

end Insertion

/-- Items in ascending or descending order; equal items keep their order in both. -/
def sortItems (ascending : Bool) (items : List Value) : List Value :=
  let before (a b : Value) : Bool := (sortKey a).before (sortKey b)
  if ascending then sortBy before items else (sortBy before items.reverse).reverse

/-- Whether an item is missing, empty, zero or not-a-number. -/
def isVoid : Value → Bool
  | .null => true
  | .text s => s.isEmpty
  | .int n => n == 0
  | .float x => x.isZero || x.isNaN
  | _ => false

/-- A change of lists as a filter: the result is a list, and any other value stays. -/
def onItems (f : List Value → List Value) : Value → Value
  | .list items | .tuple items => .list (f items)
  | v => v

/-- Why an item has no place in an order, if it has none: it is neither a number nor a text, and has
no plain text. -/
def sortFault? (v : Value) : Option Fault :=
  if v.number?.isSome then none else v.textFault?

/-- The items in order; every argument but `asc` asks for the descending order. -/
def sort (v : Value) (arguments : List Value) : Except Fault Value :=
  let ascending :=
    match arguments with
    | [] => true
    | .text s :: _ => s == "asc"
    | _ => false
  match v with
  | .list items | .tuple items =>
    match items.findSome? sortFault? with
    | some f => .error f
    | none => .ok (.list (sortItems ascending items))
  | other => .ok other

end Extraction.Filter
