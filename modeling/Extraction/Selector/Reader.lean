import Extraction.Selector.Token

/-!
# Reading selectors

The tokens of a selector make conditions, conditions make alternatives, and signs between them make
relations. Pseudo-classes in parentheses hold selectors of their own, some of which may be empty,
and one of which begins with a sign. Pseudo-classes on the states of forms stand for selectors on
attributes.

## Main definitions

* `Selector.Mode` : what may be written in parentheses.
* `Selector.Draft` : what has been read of a selector.
* `Selector.readWith` : the alternatives of a text, where some pseudo-classes have a given meaning.
* `Selector.read` : the alternatives of a text.
-/

namespace Extraction.Selector

/-- What may be written where a selector is expected. -/
structure Mode where
  /-- The selector stands in parentheses. -/
  nested : Bool := false
  /-- The selector begins with a sign or a blank. -/
  relative : Bool := false
  /-- The selector may be empty. -/
  forgiving : Bool := false
  deriving DecidableEq, Repr

/-- The conditions of an alternative that is being read. -/
structure Piece where
  /-- The conditions, the last one first. -/
  conditions : List Condition := []
  /-- Whether there is any part of a selector. -/
  isPresent : Bool := false
  /-- Whether the alternative holds for no element. -/
  isVoid : Bool := false

/-- What has been read of a selector. -/
structure Draft where
  /-- The complete alternatives, the last one first. -/
  done : List Alternative := []
  /-- What the next piece has to lie to, and how. -/
  before : Option (Relation × Alternative) := none
  /-- The pieces of a relative selector with the relations that lead to them, the last one
  first. -/
  chain : List (Relation × Piece) := []
  /-- The relation that leads to the next piece of a relative selector. -/
  lead : Relation := .descendant
  /-- The piece that is being read. -/
  piece : Piece := {}
  /-- Whether the selector is one of hypertext. -/
  isHypertext : Bool := false

/-- An alternative of a piece and the relation that it asks for. -/
def Piece.alternative (p : Piece) (before : Option (Relation × Alternative)) : Alternative :=
  if p.isVoid then .void
  else
    match before with
    | none => .all p.conditions.reverse
    | some (relation, other) => .related p.conditions.reverse relation other

/-- The relation of a relative selector whose pieces are given in order. -/
def chainRelation? : List (Relation × Piece) → Option (Relation × Alternative)
  | [] => none
  | (relation, p) :: rest => some (relation, p.alternative (chainRelation? rest))

/-- The alternative of a relative selector whose pieces are given, the last one first. -/
def chainAlternative (chain : List (Relation × Piece)) : Alternative :=
  ({} : Piece).alternative (chainRelation? chain.reverse)

namespace Draft

/-- A draft with one more condition. -/
def add (d : Draft) (c : Condition) : Draft :=
  { d with piece := { d.piece with conditions := c :: d.piece.conditions, isPresent := true } }

/-- A draft whose piece holds for no element. -/
def addVoid (d : Draft) : Draft :=
  { d with piece := { d.piece with isVoid := true, isPresent := true } }

/-- A draft whose piece is complete and ends an alternative. -/
def endAlternative (d : Draft) : Draft :=
  { d with done := d.piece.alternative d.before :: d.done, before := none, piece := {} }

/-- The relation of a piece to the one before it. -/
def pastRelation : Char → Relation
  | '>' => .parent
  | '~' => .earlierSibling
  | '+' => .previousSibling
  | _ => .ancestor

/-- The relation of an element to a piece that it has. -/
def futureRelation : Char → Relation
  | '>' => .child
  | '~' => .laterSibling
  | '+' => .nextSibling
  | _ => .descendant

/-- A draft after a sign between two selectors. -/
def combine (m : Mode) (d : Draft) (sign : Char) : Except String Draft :=
  if m.relative then
    if sign = ',' then
      if d.piece.isPresent then
        .ok { d with
          done := chainAlternative ((d.lead, d.piece) :: d.chain) :: d.done
          chain := [], lead := .descendant, piece := {} }
      else .error "a selector is missing before a comma"
    else if d.piece.isPresent then
      .ok { d with
        chain := (d.lead, d.piece) :: d.chain, lead := futureRelation sign, piece := {} }
    else if d.lead = .descendant then .ok { d with lead := futureRelation sign }
    else .error "there are several signs between two selectors"
  else if d.piece.isPresent then
    if sign = ',' then .ok d.endAlternative
    else
      .ok { d with
        before := some (pastRelation sign, d.piece.alternative d.before), piece := {} }
  else if m.forgiving && sign = ',' then
    .ok { d with done := .void :: d.done, before := none, piece := {} }
  else .error "a selector is missing before a sign"

/-- The alternatives of a draft at its end. -/
def finish (m : Mode) (d : Draft) : Except String (List Alternative) :=
  let complete (found : List Alternative) : Except String (List Alternative) :=
    .ok (if d.isHypertext then [.all [.inHypertext found.reverse]] else found.reverse)
  if d.piece.isPresent then
    if m.relative then complete (chainAlternative ((d.lead, d.piece) :: d.chain) :: d.done)
    else complete d.endAlternative.done
  else if m.forgiving && (d.done.isEmpty || d.before.isNone) then complete (.void :: d.done)
  else .error "a selector is missing"

end Draft

/-- The first or last of its siblings, or of those of its name. -/
def only : Step := ⟨0, 1⟩

/-- The conditions of a pseudo-class without parentheses that asks for a place among siblings or in
the document. -/
def simpleClass? : String → Option (List Condition)
  | ":root" => some [.root]
  | ":scope" => some [.scope]
  | ":empty" => some [.empty]
  | ":first-child" => some [.nth only false []]
  | ":last-child" => some [.nth only true []]
  | ":only-child" => some [.nth only false [], .nth only true []]
  | ":first-of-type" => some [.nthOfType only false]
  | ":last-of-type" => some [.nthOfType only true]
  | ":only-of-type" => some [.nthOfType only false, .nthOfType only true]
  | _ => none

/-- Whether a pseudo-class without parentheses is about what happens in a window, which never holds
for a document at rest. -/
def isRestless (name : String) : Bool :=
  [":active", ":autofill", ":current", ":focus", ":focus-visible", ":focus-within", ":future",
    ":host", ":hover", ":local-link", ":past", ":paused", ":playing", ":target", ":target-within",
    ":user-invalid", ":visited"].contains name

/-- What a pseudo-class with parentheses holds, and what its selector means. -/
def openedClass? (name : String) : Option (Mode × (List Alternative → Condition)) :=
  match name with
  | ":not" => some ({ nested := true }, .noneOf)
  | ":has" => some ({ nested := true, relative := true }, .anyOf)
  | ":is" | ":where" => some ({ nested := true, forgiving := true }, .anyOf)
  | ":matches" | ":contains" | ":-soup-contains" | ":-soup-contains-own" =>
    some ({ nested := true }, .anyOf)
  | ":current" | ":host" | ":host-context" => some ({ nested := true }, fun _ => .anyOf [])
  | _ => none

/-- The pseudo-classes that stand for selectors, with their meaning. -/
abbrev Meanings := List (String × List Alternative)

/-- The alternatives of a text from a point on, and what follows their closing parenthesis, if they
stand in parentheses: `total` is the length of the whole text, and `fuel` bounds the number of
tokens. -/
def readFrom (meanings : Meanings) (total : Nat) :
    Nat → Mode → Draft → List Char → Except Problem (List Alternative × List Char)
  | 0, _, _, _ => .error (.malformed "the selector is too long")
  | fuel + 1, m, d, s =>
    let fail {α : Type} (reason : String) : Except Problem α := .error (.malformed reason)
    let finish (d : Draft) (rest : List Char) :=
      match d.finish m with
      | .ok alternatives => Except.ok (alternatives, rest)
      | .error reason => fail reason
    match s with
    | [] => if m.nested then fail "a parenthesis is not closed" else finish d []
    | _ =>
      match readToken? s with
      | none => fail "there is no such sign"
      | some (.error f, _) => .error (.fault f)
      | some (.ok token, rest) =>
        match token with
        | .close =>
          if !d.piece.isPresent && !m.forgiving then fail "a selector is missing"
          else if m.nested then finish d rest
          else fail "there is no parenthesis to close"
        | .condition c => readFrom meanings total fuel m (d.add c) rest
        | .hypertext c =>
          readFrom meanings total fuel m { d.add c with isHypertext := true } rest
        | .nthOf step fromLast => do
          let (among, after) ← readFrom meanings total fuel { nested := true } {} rest
          readFrom meanings total fuel m (d.add (.nth step fromLast among)) after
        | .tag name =>
          if d.piece.isPresent then fail "a name stands after other conditions"
          else
            match name with
            | .error f => .error (.fault f)
            | .ok (qualifier, name) =>
              readFrom meanings total fuel m (d.add (.name qualifier name)) rest
        | .combine sign =>
          match d.combine m sign with
          | .ok d => readFrom meanings total fuel m d rest
          | .error reason => fail reason
        | .custom => fail "the pseudo-class has no meaning"
        | .pseudoElement => .error (.fault (.pseudoElement (total - s.length)))
        | .pageRule => .error (.fault (.pageRule (total - s.length)))
        | .pseudoClass name true =>
          match openedClass? name with
          | none => fail "there is no such pseudo-class"
          | some (inner, meaning) => do
            let (alternatives, after) ← readFrom meanings total fuel inner {} rest
            readFrom meanings total fuel m (d.add (meaning alternatives)) after
        | .pseudoClass ":defined" false =>
          readFrom meanings total fuel m { d.add .defined with isHypertext := true } rest
        | .pseudoClass name false =>
          match simpleClass? name with
          | some conditions => readFrom meanings total fuel m (conditions.foldl Draft.add d) rest
          | none =>
            match meanings.lookup name with
            | some alternatives =>
              readFrom meanings total fuel m (d.add (.inHypertext alternatives)) rest
            | none =>
              if isRestless name then readFrom meanings total fuel m d.addVoid rest
              else fail "there is no such pseudo-class"

/-- A text without blanks and comments at its end: `fuel` bounds its length. -/
def dropSpaceEnd (s : List Char) : List Char :=
  match s with
  | [] => []
  | c :: rest => if skipSpace (c :: rest) = [] then [] else c :: dropSpaceEnd rest

/-- The alternatives of a text, where some pseudo-classes have a given meaning. -/
def readWith (meanings : Meanings) (s : List Char) : Except Problem (List Alternative) :=
  let s := s.map fun c => if c = '\x00' then Char.ofNat 0xFFFD else c
  let body := dropSpaceEnd (skipSpace s)
  let total := (dropSpaceEnd s).length
  (readFrom meanings total (body.length + 2) {} {} body).map Prod.fst

/-- A meaning by a text. -/
def meaning (known : Meanings) (name text : String) : String × List Alternative :=
  (name, (readWith known text.toList).toOption.getD [])

/-- An alternative with one more condition on the element itself. -/
def Alternative.restrict (condition : Condition) : Alternative → Alternative
  | .void => .void
  | .all conditions => .all (conditions ++ [condition])
  | .related conditions relation other => .related (conditions ++ [condition]) relation other

/-- A meaning by a text whose last alternative has one more condition. -/
def meaningWith (condition : Condition) (known : Meanings) (name text : String) :
    String × List Alternative :=
  let (name, alternatives) := meaning known name text
  (name, alternatives.dropLast ++ (alternatives.getLast?.map (·.restrict condition)).toList)

/-- The controls of a form whose values may have bounds. -/
def boundedControls : String :=
  "html|input:is([type=date], [type=month], [type=week], [type=time], [type=datetime-local], " ++
    "[type=number], [type=range]):is([min], [max])"

/-- The controls of a form. -/
def controls : String :=
  "input:not([type=hidden]), button, select, textarea, fieldset"

/-- The pseudo-classes whose meaning needs no other one. -/
def plainMeanings : Meanings := [
  meaning [] ":link" "html|*:is(a, area)[href]",
  meaning [] ":any-link" "html|*:is(a, area)[href]",
  meaning [] ":checked"
    "html|*:is(input[type=checkbox], input[type=radio])[checked], html|option[selected]",
  meaning [] ":required" "html|*:is(input, select, textarea)[required]",
  meaning [] ":optional" "html|*:is(input, select, textarea):not([required])",
  meaningWith (.bounded true) [] ":in-range" boundedControls,
  meaningWith (.bounded false) [] ":out-of-range" boundedControls,
  meaningWith .undecided [] ":indeterminate"
    ("html|input[type=checkbox][indeterminate], " ++
      "html|input[type=radio]:is(:not([name]), [name=\"\"]):not([checked]), " ++
      "html|progress:not([value]), " ++
      "html|input[type=radio][name]:not([name='']):not([checked])"),
  meaningWith .unfilled [] ":placeholder-shown"
    ("html|input:is(:not([type]), [type=\"\"], [type=text], [type=search], [type=url], " ++
      "[type=tel], [type=email], [type=password], [type=number])[placeholder]" ++
      ":not([placeholder='']):is(:not([value]), [value=\"\"]), " ++
      "html|textarea[placeholder]:not([placeholder=''])"),
  meaning [] ":disabled"
    ("html|*:is(" ++ controls ++ ", optgroup, option)[disabled], " ++
      "html|optgroup[disabled] > html|option, " ++
      "html|fieldset[disabled] > html|*:is(" ++ controls ++ "), " ++
      "html|fieldset[disabled] > html|*:not(legend:nth-of-type(1)) html|*:is(" ++ controls ++ ")")]

/-- The pseudo-classes on what may be changed. -/
def stateMeanings : Meanings := plainMeanings ++ [
  meaningWith .formDefault plainMeanings ":default"
    ":checked, html|form html|*:is(button, input)[type=submit]",
  meaning plainMeanings ":enabled"
    ("html|*:is(" ++ controls ++ ", optgroup, option):not(:disabled)"),
  meaning plainMeanings ":read-write"
    ("html|*:is(textarea, input:is(:not([type]), [type=\"\"], [type=date], " ++
      "[type=datetime-local], [type=email], [type=month], [type=number], [type=password], " ++
      "[type=search], [type=tel], [type=text], [type=time], [type=url], [type=week]))" ++
      ":not([readonly], :disabled), " ++
      "html|*:is([contenteditable=\"\"], [contenteditable=\"true\" i])")]

/-- All pseudo-classes that stand for selectors. -/
def allMeanings : Meanings :=
  stateMeanings ++ [meaning stateMeanings ":read-only" "html|*:not(:read-write)"]

/-- The alternatives of a selector. -/
def read (s : List Char) : Except Problem (List Alternative) :=
  readWith allMeanings s

end Extraction.Selector
