import Extraction.Markup.Standard.State

/-!
# Closing formatting elements

A formatting element may be closed while blocks that were opened in it stay open. Then the block is
taken out of the element, and all that is in the block is put into a copy of the element.

## Main definitions

* `Markup.Standard.State.closeOther` : an element without rules of its own is closed.
* `Markup.Standard.State.closeFormatting` : a formatting element is closed.
-/

namespace Extraction.Markup.Standard.State

/-- An element without rules of its own is closed, unless a special element is open in it. -/
def closeOther (st : State) (name : String) : State :=
  match st.stack.find? fun n => st.name n == name || st.isSpecial n with
  | some n =>
    if st.name n == name then (st.closeImplied name).popThroughElement n else st
  | none => st

/-- A list with one item replaced by another. -/
def replaceItem {α : Type} [BEq α] (old new : α) (items : List α) : List α :=
  items.map fun i => if i == old then new else i

/-- Where the copies of elements between a formatting element and a block stand. -/
structure Copying where
  /-- The state so far. -/
  state : State
  /-- The outermost element that is to be moved: the block or the last copy around it. -/
  last : Nat
  /-- How many formatting elements come after the copy of the element. -/
  mark : Nat

/-- The elements between a block and a formatting element, the innermost first, are copied if they
are formatting elements, and are no longer open if they are not. At most `steps` are looked at. -/
def copyBetween (element block : Nat) : Nat → List Nat → Copying → Copying
  | 0, _, c => c
  | _, [], c => c
  | steps + 1, n :: rest, c =>
    let st := c.state
    if n == element then c
    else if !st.formatting.contains (some n) then
      copyBetween element block steps rest
        { c with state := { st with stack := st.stack.erase n } }
    else
      let mark := if c.last == block then st.formatting.idxOf (some n) - 1 else c.mark
      let (copy, forest) := st.forest.create (st.tag n)
      let forest := forest.append copy c.last
      copyBetween element block steps rest
        { state := { st with
            forest
            stack := replaceItem n copy st.stack
            formatting := replaceItem (some n) (some copy) st.formatting }
          last := copy
          mark }

/-- A list with an item put in after its first `n` items. -/
def insertAt {α : Type} (n : Nat) (item : α) (items : List α) : List α :=
  items.take n ++ item :: items.drop n

/-- A block is taken out of a formatting element; `outer` is the element around that, and `between`
are the elements between the two, the innermost first. -/
def moveBlock (st : State) (element block outer : Nat) (between : List Nat) : State :=
  let start : Copying := ⟨st, block, st.formatting.idxOf (some element)⟩
  let c := copyBetween element block 3 between start
  let st := c.state
  let forest := st.forest.detach c.last
  let forest :=
    if tableNames.contains (st.name outer) then
      match { st with forest }.fosterPlace with
      | (parent, some mark) => forest.insertBefore parent c.last mark
      | (parent, none) => forest.append parent c.last
    else forest.append outer c.last
  let (copy, forest) := forest.create (st.tag element)
  let forest := (forest.moveParts block copy).append block copy
  { st with
    forest
    formatting := insertAt c.mark (some copy) (st.formatting.erase (some element))
    stack := insertAt (st.stack.erase element |>.idxOf block) copy (st.stack.erase element) }

/-- A formatting element is closed; this is tried as often as there may be copies of it, at most
eight times. -/
def closeFormattingLoop (name : String) : Nat → State → State
  | 0, st => st
  | fuel + 1, st =>
    match st.lastFormatting? name with
    | none => st.closeOther name
    | some element =>
      if !st.stack.contains element then
        { st with formatting := st.formatting.erase (some element) }
      else if !st.inScope name then st.closeOther name
      else
        let inside := st.stack.takeWhile (· != element)
        match (inside.reverse.find? st.isSpecial) with
        | none =>
          { st.popThroughElement element with
            formatting := st.formatting.erase (some element) }
        | some block =>
          let below := (st.stack.dropWhile (· != block)).drop 1
          let outer := ((st.stack.dropWhile (· != element)).drop 1).headD 0
          closeFormattingLoop name fuel (st.moveBlock element block outer below)

/-- A formatting element is closed. -/
def closeFormatting (st : State) (name : String) : State :=
  closeFormattingLoop name 8 st

end Extraction.Markup.Standard.State
