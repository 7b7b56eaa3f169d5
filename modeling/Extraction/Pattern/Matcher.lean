import Extraction.Pattern.Tree

/-!
# Matching a pattern against a text

A match is found by trying the ways in which a pattern can match in a fixed order and going back
where what follows fails. A repetition goes on only if its last round moved forward, so the number
of rounds is bounded by the characters that are left. Searching tries every position from the left;
after a match the search goes on where the match ended, and a match right after an empty one must
not be empty.

## Main definitions

* `Pattern.Spot` : a position in a text and what the groups have matched so far.
* `Pattern.Node.run` : the first way in which a pattern and what follows it match.
* `Pattern.Node.search` : the first match at or after a position.
* `Pattern.Node.matches` : the matches from left to right.
-/

namespace Extraction.Pattern

/-- A position in a text and what the groups have matched so far. -/
structure Spot where
  /-- The characters before the position, the nearest first. -/
  before : List Char
  /-- The characters after the position. -/
  rest : List Char
  /-- How many characters are before the position. -/
  position : Nat
  /-- What the groups have matched, the latest first. -/
  captured : List (Nat × List Char)
  deriving Repr

namespace Spot

/-- The start of a text. -/
def start (s : List Char) : Spot := ⟨[], s, 0, []⟩

/-- The position after the next character, if there is one. -/
def next? (p : Spot) : Option Spot :=
  match p.rest with
  | [] => none
  | c :: rest => some { p with before := c :: p.before, rest, position := p.position + 1 }

/-- The position `n` characters earlier. -/
def back? (n : Nat) (p : Spot) : Option Spot :=
  if n ≤ p.position then
    some { p with
      before := p.before.drop n
      rest := (p.before.take n).reverse ++ p.rest
      position := p.position - n }
  else none

/-- The characters between an earlier position and this one. -/
def since (p earlier : Spot) : List Char :=
  earlier.rest.take (p.position - earlier.position)

/-- Whether the text has no characters. -/
def isEmptyText (p : Spot) : Bool :=
  p.before.isEmpty && p.rest.isEmpty

/-- Whether a character belongs to a word. -/
def isWordAt (ascii : Bool) : List Char → Bool
  | [] => false
  | c :: _ => CharClass.word.holds ascii c

/-- Whether the position is a given place. -/
def isAt (p : Spot) : Anchor → Bool
  | .start => p.before.isEmpty
  | .lineStart => p.before.isEmpty || p.before.head? == some '\n'
  | .finish => p.rest.isEmpty || p.rest == ['\n']
  | .lineEnd => p.rest.isEmpty || p.rest.head? == some '\n'
  | .lastPoint => p.rest.isEmpty
  | .wordEdge ascii negated =>
    !p.isEmptyText && (isWordAt ascii p.before != isWordAt ascii p.rest) != negated

/-- The position after a given text, if that text is next. -/
def skip? (fold : Fold) : List Char → Spot → Option Spot
  | [], p => some p
  | d :: ds, p =>
    match p.rest with
    | [] => none
    | c :: rest =>
      if (Member.single d).holds fold c then
        skip? fold ds { p with before := c :: p.before, rest, position := p.position + 1 }
      else none

end Spot

/-- What follows a part of a pattern: given a position, the end of the whole match. -/
abbrev Continuation := Spot → Option Spot

/-- Rounds of a repetition: `count` rounds are done, and `last` is where the last round that was
not required began. -/
def rounds (body : Spot → Continuation → Option Spot) (least : Nat) (most : Option Nat)
    (lazy : Bool) : Nat → Nat → Option Nat → Spot → Continuation → Option Spot
  | 0, _, _, p, k => k p
  | fuel + 1, count, last, p, k =>
    if count < least then
      body p fun q => rounds body least most lazy fuel (count + 1) last q k
    else
      let mayGoOn := (match most with | some m => count < m | none => true) &&
        last != some p.position
      let more := fun (_ : Unit) =>
        if mayGoOn then
          body p fun q => rounds body least most lazy fuel (count + 1) (some p.position) q k
        else none
      if lazy then
        match k p with
        | some r => some r
        | none => more ()
      else
        match more () with
        | some r => some r
        | none => k p

/-- The end of the first way in which a pattern and what follows it match from a position on. -/
def Node.run : Node → Spot → Continuation → Option Spot
  | .empty, p, k => k p
  | .one test, p, k =>
    match p.rest with
    | [] => none
    | c :: rest =>
      if test.holds c then
        k { p with before := c :: p.before, rest, position := p.position + 1 }
      else none
  | .anchor place, p, k => if p.isAt place then k p else none
  | .seq a b, p, k => a.run p fun q => b.run q k
  | .alt a b, p, k =>
    match a.run p k with
    | some r => some r
    | none => b.run p k
  | .group index body, p, k =>
    body.run p fun q => k { q with captured := (index, q.since p) :: q.captured }
  | .reference fold index, p, k =>
    match p.captured.lookup index with
    | some s => (p.skip? fold s).bind k
    | none => none
  | .loop least most greed body, p, k =>
    let fuel := least + p.rest.length + 2
    match greed with
    | .greedy => rounds body.run least most false fuel 0 none p k
    | .lazy => rounds body.run least most true fuel 0 none p k
    | .possessive => (rounds body.run least most false fuel 0 none p some).bind k
  | .atomic body, p, k => (body.run p some).bind k
  | .ahead positive body, p, k =>
    match body.run p some with
    | some q => if positive then k { p with captured := q.captured } else none
    | none => if positive then none else k p
  | .behind positive width body, p, k =>
    match (p.back? width).bind fun q => body.run q some with
    | some q => if positive then k { p with captured := q.captured } else none
    | none => if positive then none else k p
  | .either index matched unmatched, p, k =>
    if (p.captured.lookup index).isSome then matched.run p k else unmatched.run p k

/-- A match: what it matches and what its groups match. -/
structure Match where
  /-- The matched text. -/
  text : List Char
  /-- What the groups have matched, the latest first. -/
  captured : List (Nat × List Char)
  deriving Repr

/-- What a group of a match has matched; group zero is the whole match. -/
def Match.group? (m : Match) (index : Nat) : Option (List Char) :=
  if index = 0 then some m.text else m.captured.lookup index

/-- The match that begins at a position; it must not be empty if `advance` is set. -/
def Node.matchAt (n : Node) (advance : Bool) (p : Spot) : Option Spot :=
  n.run { p with captured := [] } fun q =>
    if advance && q.position == p.position then none else some q

/-- The start and the end of the first match at or after a position: `left` bounds the positions
that are tried. Only at the first of them `advance` may forbid an empty match. -/
def Node.search (n : Node) : Nat → Bool → Spot → Option (Spot × Spot)
  | 0, advance, p => (n.matchAt advance p).map (p, ·)
  | left + 1, advance, p =>
    match n.matchAt advance p with
    | some q => some (p, q)
    | none => p.next?.bind fun q => n.search left false q

/-- A match with the text between the match before it and itself. -/
structure Found where
  /-- The text since the end of the match before. -/
  skipped : List Char
  /-- The match. -/
  found : Match
  deriving Repr

/-- At most `limit` matches from a position on, and the text after the last of them. -/
def Node.scan (n : Node) : Nat → Bool → Spot → List Found × List Char
  | 0, _, p => ([], p.rest)
  | limit + 1, advance, p =>
    match n.search p.rest.length advance p with
    | none => ([], p.rest)
    | some (b, e) =>
      let (more, tail) := n.scan limit (b.position == e.position) e
      (⟨b.since p, ⟨e.since b, e.captured⟩⟩ :: more, tail)

/-- The matches of a pattern in a text, from left to right. -/
def Node.matches (n : Node) (s : List Char) : List Match :=
  (n.scan (2 * s.length + 2) false (Spot.start s)).1.map Found.found

end Extraction.Pattern
