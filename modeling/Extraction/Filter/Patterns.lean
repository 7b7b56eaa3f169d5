import Extraction.Filter.Reply
import Extraction.Filter.Argument
import Extraction.Pattern.Replacement

/-!
# Filters of patterns

Two filters read one of their arguments as a pattern, and another as the letters of its flags. A
pattern that cannot be read, or a flag without a meaning, leaves the value as it is, with a notice.

## Main definitions

* `Filter.flagsOf` : the flags that an argument asks for.
* `Filter.allMatches` : every match of a pattern in a text.
* `Filter.replace` : a text with the first occurrence of a part, or the matches of a pattern,
  replaced.
-/

namespace Extraction.Filter

open Text Pattern

/-- The flags with one more letter in force. The letter `u` has no effect, since patterns are about
characters of all scripts, and `g` none on how a pattern is read. -/
def withLetter (flags : Pattern.Flags) (letter : Value) : Except Problem Pattern.Flags :=
  match letter with
  | .text "i" => .ok { flags with ignoreCase := true }
  | .text "m" => .ok { flags with multiline := true }
  | .text "s" => .ok { flags with dotAll := true }
  | .text "u" | .text "g" => .ok flags
  | other =>
    match other.lookupObstacle? with
    | some kind => .error (.fault (.notLookedUp kind))
    | none => .error ((other.quoteFault?.map Problem.fault).getD (.badFlag other))

/-- The letters of an argument; an argument that counts as missing has none. -/
def letters (argument : Value) : Except Problem (List Value) :=
  if !Argument.isTruthy argument then .ok []
  else
    match argument with
    | .text s => .ok (s.toList.map fun c => .text (String.ofList [c]))
    | .list items | .tuple items | .set items => .ok items
    | .map entries => .ok (entries.map Prod.fst)
    | .bytes bs => .ok (bs.map fun b => .int b.toNat)
    | other => .error (.fault (.notIterable other.kind))

/-- The flags that an argument asks for. -/
def flagsOf (argument : Value) : Except Problem Pattern.Flags := do
  (← letters argument).foldlM withLetter {}

/-- The pattern that an argument writes under the flags of another, and the number of its
groups. -/
def patternOf (pattern flags : Value) : Except Problem (Node × Nat) := do
  let flags ← flagsOf flags
  match pattern with
  | .text s => Pattern.read flags s.toList
  | .bytes _ => .error (.fault .bytesPattern)
  | other =>
    match other.lookupObstacle? with
    | some kind => .error (.fault (.notLookedUp kind))
    | none => .error (.fault .patternKind)

/-- The answer where a pattern is not usable: the value and a notice that cites the pattern, or the
fault. -/
def refuse (v pattern : Value) (notice : Value → Problem → Notice) : Problem → Reply
  | .fault f => .fail f
  | problem =>
    match pattern.quoteFault? with
    | some f => .fail f
    | none => .warn v (notice pattern problem)

/-- Every match of a pattern in a text, as a list; any other value stays. -/
def allMatches (v : Value) (arguments : List Value) : Reply :=
  match v with
  | .text s =>
    let pattern := arguments.getD 0 .null
    match patternOf pattern (arguments.getD 1 .null) with
    | .ok (n, _) => .ok (.list ((n.matches s.toList).map fun m => .text (String.ofList m.text)))
    | .error problem => refuse v pattern Notice.badPattern problem
  | other => .ok other

/-- A text with the first occurrence of a part replaced. -/
def replacePart (s : String) (part replacement : Value) : Except Fault Value :=
  match part, replacement with
  | .text p, .text r => .ok (.text (String.ofList (replaceFirst p.toList r.toList s.toList)))
  | .text _, other => .error (.argumentKind "replace" 2 other.kind)
  | other, _ => .error (.argumentKind "replace" 1 other.kind)

/-- A text with the first match of a pattern replaced, or all matches if the flags ask for it. -/
def replacePattern (s : String) (pattern replacement flags : Value) : Except Problem Value := do
  let (n, groups) ← patternOf pattern flags
  match replacement with
  | .text r =>
    let pieces ← readTemplate groups (templateOf r.toList)
    let all := ((← letters flags).any fun letter => letter.equal (.text "g"))
    return .text (String.ofList (replaceMatches n pieces all s.toList))
  | .bytes _ => throw (.fault .textAmongBytes)
  | .moment _ => throw (.fault .textAsInteger)
  | other => throw (.fault (.noOperation other.kind "replace"))

/-- A text with something replaced: without flags the first occurrence of a part, with flags the
matches of a pattern. Any other value stays. -/
def replace (v : Value) (arguments : List Value) : Reply :=
  match v with
  | .text s =>
    let search := arguments.getD 0 .null
    let replacement := arguments.getD 1 (.text "")
    let flags := arguments.getD 2 .null
    if Argument.isTruthy flags then
      match replacePattern s search replacement flags with
      | .ok result => .ok result
      | .error problem => refuse v search Notice.badReplacePattern problem
    else .ofExcept (replacePart s search replacement)
  | other => .ok other

end Extraction.Filter
