import Extraction.Filter.Argument
import Extraction.Text.Case
import Extraction.Text.Search

/-!
# Filters of texts

Filters that change a text and leave any other value as it is, and the two that lead from texts to
lists and back.

## Main definitions

* `Filter.onText` : a change of texts as a filter.
* `Filter.sliceItems`, `Filter.slice` : the run between two positions, counted from either end.
* `Filter.split`, `Filter.join` : the pieces between separators, and back.
* `Filter.titleCase` : the first character of every word raised and the rest lowered.
-/

namespace Extraction.Filter

open Text

/-- A change of texts as a filter: any other value stays. -/
def onText (f : List Char → List Char) : Value → Value
  | .text s => .text (String.ofList (f s.toList))
  | v => v

/-- A position counted from the start, or from the end if it is negative, kept within bounds. -/
def clampIndex (length : Nat) (i : Int) : Nat :=
  min (if i < 0 then i + length else i).toNat length

/-- The run of items from one position up to another. -/
def sliceItems {α : Type} (xs : List α) (start : Int) (stop : Option Int) : List α :=
  let a := clampIndex xs.length start
  let b := (stop.map (clampIndex xs.length)).getD xs.length
  (xs.take b).drop a

/-- The run of a text, list or tuple between two positions. -/
def slice (v : Value) (arguments : List Value) : Except Fault Value := do
  let bounds : Except Fault (Int × Option Int) := do
    let start ← Argument.integerAt? arguments 0
    let stop ← Argument.integerAt? arguments 1
    return (start.getD 0, stop)
  match v with
  | .text s =>
    let (start, stop) ← bounds
    return .text (String.ofList (sliceItems s.toList start stop))
  | .list items =>
    let (start, stop) ← bounds
    return .list (sliceItems items start stop)
  | .tuple items =>
    let (start, stop) ← bounds
    return .tuple (sliceItems items start stop)
  | other => return other

/-- The pieces of a text between separators: without a separator the text is one piece, and an
empty separator stands between all characters. -/
def pieces (s : List Char) : Value → Except Fault (List (List Char))
  | .null => .ok [s]
  | .text sep => .ok (splitOn sep.toList s)
  | other => .error (.separatorKind other.kind)

/-- The pieces of a text between separators, at most as many as a limit says. -/
def split (v : Value) (arguments : List Value) : Except Fault Value :=
  match v with
  | .text s => do
    let parts ← pieces s.toList (arguments.getD 0 .null)
    let limit ← Argument.integerAt? arguments 1
    let kept := match limit with | none => parts | some n => parts.take n.toNat
    return .list (kept.map fun part => .text (String.ofList part))
  | other => .ok other

/-- An item of a list as a piece of a joined text; a missing item is empty. -/
def joinedItem : Value → Except Fault (List Char)
  | .null => .ok []
  | v => v.plainText.map String.toList

/-- Items as one text, with a separator between them. -/
def joinItems (sep : List Char) (items : List Value) : Except Fault Value := do
  return .text (String.ofList (joinWith sep (← items.mapM joinedItem)))

/-- The items of a list or a tuple as one text, with a separator between them. -/
def join (v : Value) (arguments : List Value) : Except Fault Value :=
  let joined (items : List Value) : Except Fault Value :=
    match arguments with
    | [] => joinItems [','] items
    | .text sep :: _ => joinItems sep.toList items
    | .bytes _ :: _ => do
      let pieces ← items.mapM joinedItem
      if pieces.isEmpty then return .bytes []
      else throw (.reported .type "sequence item 0: expected a bytes-like object, str found")
    | other :: _ => .error (.noOperation other.kind "join")
  match v with
  | .list items | .tuple items => joined items
  | other => .ok other

/-- The first character of every word raised and the rest lowered. A word begins with a word
character and runs to the next blank. -/
def titleCase (s : List Char) : List Char :=
  match s with
  | [] => []
  | c :: rest =>
    if isWord c then
      capitalize (c :: rest.takeWhile fun d => !isBlank d) ++
        titleCase (rest.dropWhile fun d => !isBlank d)
    else c :: titleCase rest
termination_by s.length
decreasing_by
  · have := (List.dropWhile_suffix (fun d => !isBlank d) (l := rest)).length_le
    simp only [List.length_cons]
    omega
  · simp

end Extraction.Filter
