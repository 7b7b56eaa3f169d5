import Extraction.Pattern.Tree
import Extraction.Number.Decimal

/-!
# Reading patterns

A pattern is read from left to right: alternatives between bars, in each a sequence of items, each
item perhaps with a quantifier. Flags in force change what an item means: without case, lines as
texts of their own, a dot that matches line breaks, ASCII classes, and blanks that mean nothing.

The functions that call one another take a bound on the calls, which `Pattern.read` sets from the
length of the text: every call of a chain but a few uses up a character.

## Main definitions

* `Pattern.Flags` : the flags in force.
* `Pattern.State` : the text that is left and the groups so far.
* `Pattern.read` : the pattern that a text writes.
-/

namespace Extraction.Pattern

open Text

/-- The flags in force. -/
structure Flags where
  /-- Compare without case. -/
  ignoreCase : Bool := false
  /-- A line is a text of its own for the two place signs. -/
  multiline : Bool := false
  /-- The dot matches a line break. -/
  dotAll : Bool := false
  /-- The classes are those of ASCII. -/
  ascii : Bool := false
  /-- The classes are asked for in all scripts. -/
  allScripts : Bool := false
  /-- Blanks and comments mean nothing. -/
  verbose : Bool := false
  deriving DecidableEq, Repr

/-- The way characters are compared under the flags. -/
def Flags.fold (f : Flags) : Fold :=
  if f.ignoreCase then (if f.ascii then .ascii else .full) else .exact

/-- The text that is left and the groups so far. -/
structure State where
  /-- The characters that are left. -/
  rest : List Char
  /-- The flags of the whole pattern. -/
  flags : Flags := {}
  /-- The number of groups that have been opened. -/
  groups : Nat := 0
  /-- The widths of the groups that have been closed. -/
  widths : List (Nat × Width) := []
  /-- The names of groups. -/
  names : List (String × Nat) := []
  /-- The number of groups before the outermost look behind that is open. -/
  behindGroups : Option Nat := none
  /-- The groups that conditions refer to. -/
  conditions : List Nat := []
  deriving Repr

/-- Reading changes the state or finds a problem. -/
abbrev Read := StateT State (Except Problem)

/-- Give up for a reason. -/
def fail {α : Type} (reason : String) : Read α :=
  throw (.malformed reason)

/-- A character, or a backslash with the character after it. -/
inductive Token where
  | plain (c : Char)
  | escaped (c : Char)
  deriving DecidableEq, Repr

/-- The next token, which stays. -/
def peek : Read (Option Token) := do
  match (← get).rest with
  | [] => return none
  | ['\\'] => fail "a backslash at the end"
  | '\\' :: c :: _ => return some (.escaped c)
  | c :: _ => return some (.plain c)

/-- The next token, which is taken. -/
def take : Read (Option Token) := do
  let t ← peek
  match t with
  | none => return none
  | some (.plain _) => modify fun s => { s with rest := s.rest.drop 1 }
  | some (.escaped _) => modify fun s => { s with rest := s.rest.drop 2 }
  return t

/-- Take the next token if it is a given character. -/
def accept (c : Char) : Read Bool := do
  if (← peek) = some (.plain c) then
    let _ ← take
    return true
  else return false

/-- Take at most `n` characters of a kind. -/
def takeSome (n : Nat) (kind : Char → Bool) : Read (List Char) := do
  let found := ((← get).rest.takeWhile kind).take n
  modify fun s => { s with rest := s.rest.drop found.length }
  return found

/-- The characters up to a given one, which is taken too. -/
def takeUntil (stop : Char) : Read (List Char) := do
  let found := (← get).rest.takeWhile (· ≠ stop)
  let after := (← get).rest.drop found.length
  if found.isEmpty || after.isEmpty then fail "a name is missing or does not end"
  else
    modify fun s => { s with rest := after.drop 1 }
    return found

/-- The value of a hexadecimal digit. -/
def hexValue? (c : Char) : Option Nat :=
  if '0' ≤ c ∧ c ≤ '9' then some (c.toNat - 48)
  else if 'a' ≤ c ∧ c ≤ 'f' then some (c.toNat - 87)
  else if 'A' ≤ c ∧ c ≤ 'F' then some (c.toNat - 55)
  else none

/-- Whether a character is a hexadecimal digit. -/
def isHexDigit (c : Char) : Bool :=
  (hexValue? c).isSome

/-- Whether a character is an octal digit. -/
def isOctalDigit (c : Char) : Bool :=
  '0' ≤ c && c ≤ '7'

/-- The number that digits write in a base. -/
def numberIn (base : Nat) (ds : List Char) : Nat :=
  ds.foldl (fun n c => n * base + (hexValue? c).getD 0) 0

/-- Whether a character is an ASCII letter. -/
def isAsciiLetter (c : Char) : Bool :=
  ('a' ≤ c && c ≤ 'z') || ('A' ≤ c && c ≤ 'Z')

/-- Whether a text is the name of a group. -/
def isGroupName : List Char → Bool
  | [] => false
  | c :: rest => isWord c && !isDigitLike c && rest.all isWord

/-- Exactly `n` hexadecimal digits as a character. -/
def hexEscape (n : Nat) : Read Char := do
  let ds ← takeSome n isHexDigit
  let code := numberIn 16 ds
  if ds.length = n ∧ code < 0x110000 then return Char.ofNat code
  else fail "an escape is incomplete"

/-- The characters that letters after a backslash stand for. -/
def controlEscape? : Char → Option Char
  | 'a' => some '\x07'
  | 'b' => some '\x08'
  | 'f' => some '\x0c'
  | 'n' => some '\n'
  | 'r' => some '\r'
  | 't' => some '\t'
  | 'v' => some '\x0b'
  | '\\' => some '\\'
  | _ => none

/-- The classes that letters after a backslash stand for. -/
def classEscape? (ascii : Bool) : Char → Option Member
  | 'd' => some (.named .digit ascii false)
  | 'D' => some (.named .digit ascii true)
  | 's' => some (.named .blank ascii false)
  | 'S' => some (.named .blank ascii true)
  | 'w' => some (.named .word ascii false)
  | 'W' => some (.named .word ascii true)
  | _ => none

/-- The places that letters after a backslash stand for. -/
def anchorEscape? (ascii : Bool) : Char → Option Anchor
  | 'A' => some .start
  | 'Z' => some .lastPoint
  | 'b' => some (.wordEdge ascii false)
  | 'B' => some (.wordEdge ascii true)
  | _ => none

/-- The character that a hexadecimal escape stands for, if the letter begins one. -/
def codedEscape? (c : Char) : Read (Option Char) := do
  match c with
  | 'x' => return some (← hexEscape 2)
  | 'u' => return some (← hexEscape 4)
  | 'U' => return some (← hexEscape 8)
  | _ => return none

/-- What an escape inside a set stands for. -/
def setEscape (flags : Flags) (c : Char) : Read Member := do
  if let some d := controlEscape? c then return .single d
  if let some m := classEscape? flags.ascii c then return m
  if let some d ← codedEscape? c then return .single d
  if isOctalDigit c then
    let code := numberIn 8 (c :: (← takeSome 2 isOctalDigit))
    if code > 0o377 then fail "an octal escape is out of range"
    else return .single (Char.ofNat code)
  if isAsciiLetter c || isAsciiDigit c then fail "an escape has no meaning" else return .single c

/-- Whether a group may be referred to: it is closed, and outside the look behind that is open. -/
def checkGroup (index : Nat) : Read Unit := do
  let s ← get
  if (s.widths.lookup index).isNone then fail "a group is open or unknown"
  match s.behindGroups with
  | some n => if index > n then fail "a group of the same look behind"
  | none => return ()

/-- What an escape outside sets stands for, with whether it is a place. -/
def itemEscape (flags : Flags) (c : Char) : Read (Node × Bool) := do
  if let some p := anchorEscape? flags.ascii c then return (.anchor p, true)
  if let some m := classEscape? flags.ascii c then
    return (.one (.set flags.fold false [m]), false)
  let literal := fun (d : Char) => (Node.one (.literal flags.fold d), false)
  if let some d := controlEscape? c then return literal d
  if let some d ← codedEscape? c then return literal d
  if c = '0' then
    return literal (Char.ofNat (numberIn 8 (← takeSome 2 isOctalDigit)))
  if isAsciiDigit c then
    let second ← takeSome 1 isAsciiDigit
    let third ←
      if isOctalDigit c && second.any isOctalDigit then takeSome 1 isOctalDigit else pure []
    if third.isEmpty then
      let index := numberIn 10 (c :: second)
      checkGroup index
      return (.reference flags.fold index, false)
    else
      let code := numberIn 8 (c :: second ++ third)
      if code > 0o377 then fail "an octal escape is out of range"
      else return literal (Char.ofNat code)
  if isAsciiLetter c then fail "an escape has no meaning" else return literal c

/-- One end of a range in a set: a token that has been taken. -/
def setToken (flags : Flags) : Option Token → Read Member
  | none => fail "a set does not end"
  | some (.escaped c) => setEscape flags c
  | some (.plain c) => return .single c

/-- The members of a set up to its closing bracket. -/
def readMembers (flags : Flags) : Nat → List Member → Read (List Member)
  | 0, _ => fail "a set does not end"
  | fuel + 1, found => do
    let t ← take
    if t = some (.plain ']') && !found.isEmpty then return found.reverse
    let first ← setToken flags t
    if ← accept '-' then
      let u ← take
      if u = some (.plain ']') then return (.single '-' :: first :: found).reverse
      let second ← setToken flags u
      match first, second with
      | .single a, .single b =>
        if b < a then fail "a range runs backwards"
        else readMembers flags fuel (.range a.toNat b.toNat :: found)
      | _, _ => fail "a range needs characters"
    else readMembers flags fuel (first :: found)

/-- A set, its opening bracket taken. -/
def readSet (flags : Flags) : Read Node := do
  let negated ← accept '^'
  let members ← readMembers flags ((← get).rest.length + 1) []
  return .one (.set flags.fold negated members)

/-- What kind of item a quantifier would apply to. -/
inductive ItemKind where
  | plain
  | anchor
  | repeated
  deriving DecidableEq, Repr

/-- The least and the greatest count of a quantifier in braces, its opening brace taken; nothing if
the braces are not a quantifier. -/
def readCounts? : Read (Option (Nat × Option Nat)) := do
  let saved ← get
  if saved.rest.head? = some '}' then return none
  let low ← takeSome saved.rest.length isAsciiDigit
  let comma ← accept ','
  let high ← if comma then takeSome saved.rest.length isAsciiDigit else pure low
  if !(← accept '}') then
    set saved
    return none
  let least := numberIn 10 low
  let most := if high.isEmpty then none else some (numberIn 10 high)
  let bound := 4294967295
  if least ≥ bound || (most.any (· ≥ bound)) then
    throw (.fault (.reported .overflow "the repetition number is too large"))
  if most.any (· < least) then fail "the least count is above the greatest"
  return some (least, most)

/-- The flag that a letter stands for, put in force or taken away. -/
def Flags.withFlag? (f : Flags) (c : Char) (on : Bool) : Option Flags :=
  match c with
  | 'i' => some { f with ignoreCase := on }
  | 'm' => some { f with multiline := on }
  | 's' => some { f with dotAll := on }
  | 'x' => some { f with verbose := on }
  | 'a' => some { f with ascii := on }
  | 'u' => some { f with allScripts := on }
  | _ => none

/-- Letters of flags up to a character that ends them. -/
def readFlagLetters (stops : List Char) (allowed : List Char) :
    Nat → List Char → Read (List Char × Char)
  | 0, _ => fail "flags do not end"
  | fuel + 1, found => do
    match ← take with
    | some (.plain c) =>
      if stops.contains c then return (found, c)
      else if allowed.contains c then readFlagLetters stops allowed fuel (c :: found)
      else fail "an unknown flag"
    | _ => fail "flags do not end"

/-- The flags of a group, from their first character on: those added and taken away, or nothing if
they are for the whole pattern. -/
def readFlags (first : Char) : Read (Option (List Char × List Char)) := do
  let bound := (← get).rest.length + 1
  let (added, stop) ←
    if first = '-' then pure ([], '-')
    else readFlagLetters [')', '-', ':'] ['i', 'm', 's', 'x', 'a', 'u'] bound [first]
  if added.contains 'a' && added.contains 'u' then fail "flags that exclude each other"
  if stop = ')' then
    modify fun s => { s with
      flags := added.foldl (fun f c => (f.withFlag? c true).getD f) s.flags }
    return none
  let (removed, _) ←
    if stop = '-' then readFlagLetters [':'] ['i', 'm', 's', 'x'] bound [] else pure ([], ':')
  if stop = '-' && removed.isEmpty then fail "a flag is missing"
  if added.any removed.contains then fail "a flag is turned on and off"
  return some (added, removed)

/-- The flags inside a group that adds some and takes others away. -/
def Flags.changed (f : Flags) (added removed : List Char) : Flags :=
  let base :=
    if added.contains 'a' || added.contains 'u' then { f with ascii := false, allScripts := false }
    else f
  let grown := added.foldl (fun f c => (f.withFlag? c true).getD f) base
  removed.foldl (fun f c => (f.withFlag? c false).getD f) grown

/-- The index of the group that a condition names. -/
def readCondition : Read Nat := do
  let name ← takeUntil ')'
  if isGroupName name then
    match (← get).names.lookup (String.ofList name) with
    | some index => return index
    | none => fail "an unknown group name"
  else if name.all isDigit then
    let index := Decimal.digitsValue name
    if index = 0 then fail "a bad group number"
    modify fun s => { s with conditions := index :: s.conditions }
    return index
  else fail "a bad group name"

/-- Open a group, perhaps with a name. -/
def openGroup (name : Option (List Char)) : Read Nat := do
  let index := (← get).groups + 1
  modify fun s => { s with groups := index }
  match name with
  | none => return index
  | some n =>
    let n := String.ofList n
    if ((← get).names.lookup n).isSome then fail "a group name is used twice"
    modify fun s => { s with names := (n, index) :: s.names }
    return index

/-- Items in sequence. -/
def sequence (items : List (Node × ItemKind)) : Node :=
  items.foldl (fun acc item => match acc with | .empty => item.1 | _ => .seq item.1 acc) .empty

/-- How a repetition counts, by the sign after its quantifier. -/
def readGreed : Read Greed := do
  if ← accept '?' then return .lazy
  if ← accept '+' then return .possessive
  return .greedy

/-- The items with the last one repeated; a sign after the quantifier chooses how it counts. -/
def quantify (least : Nat) (most : Option Nat) (items : List (Node × ItemKind)) :
    Read (List (Node × ItemKind)) := do
  match items with
  | [] => fail "nothing to repeat"
  | (_, .anchor) :: _ => fail "nothing to repeat"
  | (_, .repeated) :: _ => fail "a repetition of a repetition"
  | (n, .plain) :: more =>
    return (.loop least most (← readGreed) n, .repeated) :: more

mutual

/-- Alternatives between bars. -/
def readAlternatives (flags : Option Flags) : Nat → Read Node
  | 0 => fail "the pattern is too deep"
  | fuel + 1 => do
    let first ← readSequence flags true fuel []
    readMore flags first fuel

/-- More alternatives after the first. -/
def readMore (flags : Option Flags) (first : Node) : Nat → Read Node
  | 0 => fail "the pattern is too deep"
  | fuel + 1 => do
    if ← accept '|' then
      let second ← readSequence flags false fuel []
      let others ← readMore flags second fuel
      return .alt first others
    else return first

/-- Items up to a bar, a closing parenthesis or the end. Without flags of its own the sequence is
outside all groups and follows those of the whole pattern; only as the first of its kind it may
change them. -/
def readSequence (own : Option Flags) (isFirst : Bool) :
    Nat → List (Node × ItemKind) → Read Node
  | 0, _ => fail "the pattern is too deep"
  | fuel + 1, items => do
    let flags := own.getD (← get).flags
    match ← peek with
    | none => return sequence items
    | some (.escaped c) =>
      let _ ← take
      let (n, isAnchor) ← itemEscape flags c
      readSequence own isFirst fuel ((n, if isAnchor then .anchor else .plain) :: items)
    | some (.plain c) =>
      if c = '|' || c = ')' then return sequence items
      let _ ← take
      let push := fun (n : Node) (kind : ItemKind) =>
        readSequence own isFirst fuel ((n, kind) :: items)
      if flags.verbose && [' ', '\t', '\n', '\r', '\x0b', '\x0c'].contains c then
        readSequence own isFirst fuel items
      else if flags.verbose && c = '#' then
        modify fun s => { s with rest := (s.rest.dropWhile (· ≠ '\n')).drop 1 }
        readSequence own isFirst fuel items
      else
        match c with
        | '[' => push (← readSet flags) .plain
        | '.' => push (.one (if flags.dotAll then .any else .notNewline)) .plain
        | '^' => push (.anchor (if flags.multiline then .lineStart else .start)) .anchor
        | '$' => push (.anchor (if flags.multiline then .lineEnd else .finish)) .anchor
        | '(' =>
          match ← readGroup own flags (isFirst && items.isEmpty) fuel with
          | some n => push n .plain
          | none => readSequence own isFirst fuel items
        | '*' => readSequence own isFirst fuel (← quantify 0 none items)
        | '+' => readSequence own isFirst fuel (← quantify 1 none items)
        | '?' => readSequence own isFirst fuel (← quantify 0 (some 1) items)
        | '{' =>
          match ← readCounts? with
          | some (least, most) =>
            readSequence own isFirst fuel (← quantify least most items)
          | none => push (.one (.literal flags.fold '{')) .plain
        | c => push (.one (.literal flags.fold c)) .plain

/-- What follows an opening parenthesis; nothing if it is a comment or flags of the whole. -/
def readGroup (own : Option Flags) (flags : Flags) (mayBeGlobal : Bool) :
    Nat → Read (Option Node)
  | 0 => fail "the pattern is too deep"
  | fuel + 1 => do
    if !(← accept '?') then
      return some (← readCapture none flags fuel)
    match ← take with
    | some (.plain 'P') =>
      if ← accept '<' then
        let name ← takeUntil '>'
        if isGroupName name then return some (← readCapture (some name) flags fuel)
        else fail "a bad group name"
      else if ← accept '=' then
        let name ← takeUntil ')'
        match (← get).names.lookup (String.ofList name) with
        | some index =>
          checkGroup index
          return some (.reference flags.fold index)
        | none => fail "an unknown group name"
      else fail "an unknown extension"
    | some (.plain ':') => return some (← readBody (some flags) fuel)
    | some (.plain '>') => return some (.atomic (← readBody (some flags) fuel))
    | some (.plain '#') =>
      let after := (← get).rest.dropWhile (· ≠ ')')
      if after.isEmpty then fail "a comment does not end"
      modify fun s => { s with rest := after.drop 1 }
      return none
    | some (.plain '=') => return some (.ahead true (← readBody (some flags) fuel))
    | some (.plain '!') => return some (.ahead false (← readBody (some flags) fuel))
    | some (.plain '<') =>
      let positive ←
        match ← take with
        | some (.plain '=') => pure true
        | some (.plain '!') => pure false
        | _ => fail "an unknown extension"
      let outer := (← get).behindGroups
      if outer.isNone then modify fun s => { s with behindGroups := some s.groups }
      let body ← readBody (some flags) fuel
      if outer.isNone then modify fun s => { s with behindGroups := none }
      let width := body.width (← get).widths
      if width.most = some width.least then return some (.behind positive width.least body)
      else fail "a look behind needs a fixed width"
    | some (.plain '(') =>
      let index ← readCondition
      if (← get).behindGroups.isSome then checkGroup index
      let matched ← readSequence (some flags) false fuel []
      let unmatched ←
        if ← accept '|' then readSequence (some flags) false fuel [] else pure .empty
      if ← accept ')' then return some (.either index matched unmatched)
      else fail "a parenthesis is not closed"
    | some (.plain c) =>
      if ['i', 'm', 's', 'x', 'a', 'u', '-'].contains c then
        match ← readFlags c with
        | none => if own.isNone && mayBeGlobal then return none else fail "flags not at the start"
        | some (added, removed) =>
          return some (← readBody (some (flags.changed added removed)) fuel)
      else fail "an unknown extension"
    | _ => fail "an unknown extension"

/-- A group that captures what it matches. -/
def readCapture (name : Option (List Char)) (flags : Flags) : Nat → Read Node
  | 0 => fail "the pattern is too deep"
  | fuel + 1 => do
    let index ← openGroup name
    let body ← readBody (some flags) fuel
    modify fun s => { s with widths := (index, body.width s.widths) :: s.widths }
    return .group index body

/-- The inside of a group and its closing parenthesis. -/
def readBody (flags : Option Flags) : Nat → Read Node
  | 0 => fail "the pattern is too deep"
  | fuel + 1 => do
    let body ← readAlternatives flags fuel
    if ← accept ')' then return body else fail "a parenthesis is not closed"

end

/-- A whole pattern. -/
def readWhole : Read Node := do
  let body ← readAlternatives none (6 * (← get).rest.length + 10)
  let s ← get
  if s.flags.ascii && s.flags.allScripts then
    throw (.fault (.reported .value "ASCII and UNICODE flags are incompatible"))
  if !s.rest.isEmpty then fail "a parenthesis is not opened"
  if s.conditions.any (· > s.groups) then fail "an unknown group"
  return body

/-- The pattern that a text writes under some flags. -/
def read (flags : Flags) (s : List Char) : Except Problem (Node × Nat) :=
  (readWhole.run { rest := s, flags }).map fun (n, final) => (n, final.groups)

end Extraction.Pattern
