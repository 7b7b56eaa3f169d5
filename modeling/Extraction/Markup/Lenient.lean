import Extraction.Markup.Character
import Extraction.Markup.Event
import Extraction.Text.Case

/-!
# The lenient reader of hypertext

This reader takes tags as they come: an element ends where it is closed, or where an element around
it is closed. What looks like markup but is not complete is text. Reading has two phases: in the
first, what is not complete might go on, and it is left for the second, which takes the end of the
text as final. A reference by a decimal number of too many digits and a marked section without a
known name end the reading in a fault.

## Main definitions

* `Markup.Lenient.readStartTag` : a tag that opens an element.
* `Markup.Lenient.readEndTag?` : a tag that closes one.
* `Markup.Lenient.markedSection` : a marked section.
* `Markup.Lenient.events` : the events of a text.
-/

namespace Extraction.Markup.Lenient

open Text

/-- Whether a character ends the name of a tag. -/
def endsName (c : Char) : Bool :=
  ['\t', '\n', '\r', '\x0c', ' ', '/', '>', '\x00'].contains c

/-- Whether a character is a letter of ASCII. -/
def isAsciiLetter (c : Char) : Bool :=
  ('a' ≤ c && c ≤ 'z') || ('A' ≤ c && c ≤ 'Z')

/-- What follows the blanks and slashes at the start of a text, with the last character before it;
a slash right before a closing bracket is no such. -/
def skipGap (before : Char) : List Char → Char × List Char
  | [] => (before, [])
  | c :: rest =>
    if isBlank c || (c = '/' && rest.head? ≠ some '>') then skipGap c rest else (before, c :: rest)

/-- What follows all blanks and slashes at the start of a text, with the last character before
it. -/
def skipSlashes (before : Char) : List Char → Char × List Char
  | [] => (before, [])
  | c :: rest => if isBlank c || c = '/' then skipSlashes c rest else (before, c :: rest)

/-- The value of an attribute, as it is written without quotes. -/
def isBareChar (c : Char) : Bool :=
  !isBlank c && c ≠ '>'

/-- The value in quotes at the start of a text, and what follows. -/
def readQuoted? (quote : Char) (s : List Char) : Option (List Char × List Char) :=
  match s.dropWhile (· ≠ quote) with
  | [] => none
  | _ :: after => some (s.takeWhile (· ≠ quote), after)

/-- The value after the name of an attribute, with the last character of it, and what follows. A
quote that is not closed is not part of the value. -/
def readValue? (s : List Char) : Option (List Char × Char × List Char) :=
  let equals := s.dropWhile isBlank
  let signs := equals.takeWhile (· = '=')
  let after := equals.dropWhile (· = '=')
  let body := after.dropWhile isBlank
  let bare := fun (last : Char) (t : List Char) =>
    let value := t.takeWhile isBareChar
    (value, value.getLast?.getD last, t.dropWhile isBareChar)
  if signs.isEmpty then none
  else
    match body with
    | c :: rest =>
      if c = '\'' || c = '"' then
        match readQuoted? c rest with
        | some (value, tail) => some (value, c, tail)
        | none =>
          if after.length > body.length then
            let blanks := after.take (after.length - body.length)
            some ([], (blanks.dropLast.getLast?.getD '='), blanks.getLast?.toList ++ body)
          else if signs.length > 1 then some (bare '=' ('=' :: body))
          else none
      else some (bare (after.take (after.length - body.length) |>.getLast?.getD '=') body)
    | [] => some (bare '=' [])

/-- An attribute as it is read: its name and its value, if it has one. -/
structure RawAttribute where
  /-- The name. -/
  name : List Char
  /-- The value, with its references. -/
  value : Option (List Char)
  deriving Repr

/-- The attribute at the start of a text, after the character `before`, and what follows it with
the character before that. -/
def readAttribute? (before : Char) (s : List Char) : Option (RawAttribute × Char × List Char) :=
  match s with
  | [] => none
  | c :: rest =>
    if !(isBlank before || ['\'', '"', '/'].contains before) || isBlank c || c = '/' || c = '>' then
      none
    else
      let inName := fun (d : Char) => !isBlank d && d ≠ '/' && d ≠ '=' && d ≠ '>'
      let name := c :: rest.takeWhile inName
      let after := rest.dropWhile inName
      match readValue? after with
      | some (value, last, tail) => some (⟨name, some value⟩, skipGap last tail)
      | none => some (⟨name, none⟩, skipGap (name.getLast?.getD c) after)

/-- The attributes at the start of a text, and what follows them: `fuel` bounds their number. -/
def readAttributes : Nat → Char → List Char → List RawAttribute × List Char
  | 0, _, s => ([], s)
  | fuel + 1, before, s =>
    match readAttribute? before s with
    | none => ([], s)
    | some (a, last, rest) =>
      let (more, tail) := readAttributes fuel last rest
      (a :: more, tail)

/-- How far a tag reaches that begins with the given text, after the bracket that opens it: nothing
if it may go on. -/
def tagLength? (s : List Char) : Option Nat :=
  let name := s.takeWhile fun c => !endsName c
  let (before, afterSlashes) := skipSlashes (name.getLast?.getD '<') (s.drop name.length)
  let (_, rest) := readAttributes s.length before afterSlashes
  let rest := rest.dropWhile isBlank
  let used := s.length - rest.length
  match rest with
  | [] => none
  | '>' :: _ => some (used + 1)
  | '/' :: '>' :: _ => some (used + 2)
  | c :: _ => if c = '/' || c = '=' || isAsciiLetter c then none else some used

/-- Attributes with one more: a name that is present takes the new value. -/
def putAttribute (as : List Attribute) (a : Attribute) : List Attribute :=
  if as.any fun b => b.name == a.name then
    as.map fun b => if b.name == a.name then a else b
  else as ++ [a]

/-- The attributes of a tag. A missing value is empty, and of several of one name the last one
counts. -/
def attributesOf (raw : List RawAttribute) : Except Fault (List Attribute) :=
  raw.foldlM (fun as r => do
    let value ← unescape (r.value.getD [])
    return putAttribute as
      { name := String.ofList (lower r.name), value := String.ofList value }) []

/-- A tag that opens an element. -/
structure StartTag where
  /-- The name. -/
  name : String
  /-- The attributes. -/
  attributes : List Attribute
  /-- Whether the tag closes the element at once. -/
  closes : Bool
  deriving Repr

/-- The tag that a complete text writes, without the bracket that opens it; nothing if the text is
no tag. References in values are read before that is known. -/
def readStartTag (s : List Char) : Reading StartTag := do
  let name := s.takeWhile fun c => !endsName c
  let (before, rest) := skipGap (name.getLast?.getD '<') (s.drop name.length)
  let (raw, tail) := readAttributes s.length before rest
  let attributes ← (attributesOf raw : Except Fault (List Attribute))
  let lowered := String.ofList (lower name)
  match trim tail with
  | ['>'] => return ⟨lowered, attributes, false⟩
  | ['/', '>'] => return ⟨lowered, attributes, true⟩
  | _ => failure

/-- Where the reader stands. -/
structure State where
  /-- The element whose text is not read as markup, if the reader is in one. -/
  verbatim : Option String := none
  /-- The void elements that a tag of their own may still close. -/
  closedVoids : List String := []
  deriving Repr

/-- What a step of the reader gives: events, what follows, and where the reader stands then. -/
inductive Step where
  /-- Something is read. -/
  | next (events : List Event) (rest : List Char) (state : State)
  /-- What follows is markup that is not complete. -/
  | wait
  /-- Something is read, and what follows is left for the second phase, or is text. -/
  | leave (events : List Event) (rest : List Char)

/-- The events of an opening tag. -/
def startEvents (state : State) (t : StartTag) : List Event × State :=
  let opened := Event.opened { name := t.name, attributes := t.attributes }
  if t.closes then
    if state.closedVoids.contains t.name then
      ([opened], { state with closedVoids := state.closedVoids.erase t.name })
    else ([opened, .closed t.name none], state)
  else if Dialect.hypertext.mayBeVoid t.name then
    ([opened, .closed t.name none],
      { state with closedVoids := state.closedVoids ++ [t.name] })
  else if t.name == "script" || t.name == "style" then
    ([opened], { state with verbatim := some t.name })
  else ([opened], state)

/-- The events of a closing tag. -/
def endEvents (state : State) (name : String) : List Event × State :=
  if state.closedVoids.contains name then
    ([], { state with closedVoids := state.closedVoids.erase name })
  else ([.closed name none], state)

/-- The name of a closing tag that is written in full, and what follows it. The text begins after
the slash. -/
def readEndTag? (s : List Char) : Option (List Char × List Char) :=
  let body := s.dropWhile isBlank
  let inName := fun (c : Char) =>
    isAsciiLetter c || isAsciiDigit c || ['-', '.', ':', '_'].contains c
  match body with
  | [] => none
  | c :: _ =>
    if isAsciiLetter c then
      match (body.dropWhile inName).dropWhile isBlank with
      | '>' :: after => some (body.takeWhile inName, after)
      | _ => none
    else none

/-- What follows the first closing bracket of a text. -/
def afterBracket? (s : List Char) : Option (List Char) :=
  match s.dropWhile (· ≠ '>') with
  | [] => none
  | _ :: after => some after

/-- The text up to the first closing bracket as a comment. -/
def bogusComment (state : State) (s : List Char) : Step :=
  match afterBracket? s with
  | none => .wait
  | some after => .next [.aside .comment (s.takeWhile (· ≠ '>'))] after state

/-- A closing tag; the text begins after the slash. -/
def endTag (state : State) (s : List Char) : Step :=
  match afterBracket? s with
  | none => .wait
  | some after =>
    let whole := '<' :: '/' :: s.take (s.length - after.length)
    match readEndTag? s with
    | some (name, rest) =>
      let name := String.ofList (lower name)
      match state.verbatim with
      | some open_ =>
        if name == open_ then
          let (events, state) := endEvents state name
          .next events rest { state with verbatim := none }
        else .next [.chars whole] after state
      | none =>
        let (events, state) := endEvents state name
        .next events rest state
    | none =>
      if state.verbatim.isSome then .next [.chars whole] after state
      else
        match s with
        | c :: _ =>
          if isAsciiLetter c then
            let name := s.takeWhile fun c => !endsName c
            let (_, rest) := skipGap '/' (s.drop name.length)
            let (events, state) := endEvents state (String.ofList (lower name))
            .next events ((afterBracket? rest).getD []) state
          else if c = '>' then .next [] after state
          else bogusComment state s
        | [] => .wait

/-- The body of a comment up to its end: two hyphens, blanks and a closing bracket. -/
def readComment? : List Char → Option (List Char × List Char)
  | [] => none
  | '-' :: '-' :: rest =>
    match rest.dropWhile isBlank with
    | '>' :: after => some ([], after)
    | _ => (readComment? ('-' :: rest)).map fun (body, after) => ('-' :: body, after)
  | c :: rest => (readComment? rest).map fun (body, after) => (c :: body, after)

/-- The body of a marked section up to its end: closing square brackets and a closing bracket, with
blanks between them. -/
def readSection? (brackets : Nat) (s : List Char) : Option (List Char × List Char) :=
  match s with
  | [] => none
  | c :: rest =>
    match closes brackets (c :: rest) with
    | some after => some ([], after)
    | none => (readSection? brackets rest).map fun (body, after) => (c :: body, after)
where
  /-- What follows the end of a section at the start of a text. -/
  closes : Nat → List Char → Option (List Char)
    | 0, '>' :: after => some after
    | n + 1, ']' :: after => closes n (after.dropWhile isBlank)
    | _, _ => none

/-- Whether a character may follow the first one in the name of a marked section. -/
def isSectionChar (c : Char) : Bool :=
  isAsciiLetter c || isAsciiDigit c || ['-', '_', '.'].contains c

/-- How many square brackets close a marked section of a name, if there are such sections: those of
text need two, and the conditions of old browsers one. -/
def closingBrackets? (name : String) : Option Nat :=
  if ["temp", "cdata", "ignore", "include", "rcdata"].contains name then some 2
  else if ["if", "else", "endif"].contains name then some 1
  else none

/-- A marked section; the text begins after its opening bracket. A text that ends with the name of
the section may go on. A name that is missing, and one that no marked section has, are faults. -/
def markedSection (state : State) (s : List Char) : Except Fault Step :=
  if s.isEmpty then .ok .wait
  else if !s.head?.any isAsciiLetter then .error (.namelessSection ("<![".toList ++ s.take 17))
  else
    let name := s.takeWhile isSectionChar
    let body := (s.drop name.length).dropWhile isBlank
    if body.isEmpty then .ok .wait
    else
      match closingBrackets? (String.ofList (lower name)) with
      | none => .error (.unknownSection (s.take (s.length - body.length)))
      | some brackets =>
        match readSection? brackets s with
        | none => .ok .wait
        | some (body, after) =>
          let event :=
            if upper (body.take 6) = "CDATA[".toList then Event.aside .cdata (body.drop 6)
            else .aside .declaration body
          .ok (.next [event] after state)

/-- What begins with an opening bracket and an exclamation mark; the text begins after them. -/
def markedDeclaration (state : State) (s : List Char) : Except Fault Step :=
  match s with
  | '-' :: '-' :: rest =>
    match readComment? rest with
    | some (body, after) => .ok (.next [.aside .comment body] after state)
    | none => .ok .wait
  | '[' :: rest => markedSection state rest
  | _ =>
    if lower (s.take 7) = "doctype".toList then
      match afterBracket? (s.drop 7) with
      | none => .ok .wait
      | some after =>
        .ok (.next [.aside .doctype ((s.takeWhile (· ≠ '>')).drop 8)] after state)
    else .ok (bogusComment state s)

/-- A processing instruction; the text begins after the question mark. -/
def instruction (state : State) (s : List Char) : Step :=
  match afterBracket? s with
  | none => .wait
  | some after => .next [.aside .instruction (s.takeWhile (· ≠ '>'))] after state

/-- An opening tag; the text begins after the bracket. -/
def startTag (state : State) (s : List Char) : Except Fault Step := do
  match tagLength? s with
  | none => return .wait
  | some n =>
    match ← (readStartTag (s.take n)).run with
    | none => return .next [.chars ('<' :: s.take n)] (s.drop n) state
    | some t =>
      let (events, state) := startEvents state t
      return .next events (s.drop n) state

/-- What begins with an opening bracket; the text begins after it. -/
def bracket (state : State) (s : List Char) : Except Fault Step :=
  match s with
  | [] => .ok (.leave [] ['<'])
  | '/' :: rest => .ok (endTag state rest)
  | '!' :: rest => markedDeclaration state rest
  | '?' :: rest => .ok (instruction state rest)
  | c :: _ => if isAsciiLetter c then startTag state s else .ok (.next [.chars ['<']] s state)

/-- The characters that a number in a text stands for: a number below 256 is a byte of the Western
table. -/
def numbered (n : Nat) : List Char :=
  match Charset.westernCode? n with
  | some code => [Char.ofNat code]
  | none => if n = 0 then ['\x00'] else if isCodePoint n then [Char.ofNat n] else [unreadable]

/-- What begins with the reference of a number in a text; the text begins after the number sign.
A number without a semicolon counts only if a character follows that is no digit. -/
def numberReference (state : State) (s : List Char) : Except Fault Step := do
  let noNumber :=
    if s.contains ';' then Step.leave [.chars ['&', '#']] s else .leave [] ('&' :: '#' :: s)
  match readNumeral? s with
  | some (numeral, closed, after) =>
    let last := after.head?
    if !closed && (last.isNone || (!numeral.hex && last.any isHexDigit)) then return noNumber
    else return .next [.chars (numbered (← numeral.read))] after state
  | none => return noNumber

/-- What begins with an ampersand; the text begins after it. -/
def reference (final : Bool) (state : State) (s : List Char) : Except Fault Step :=
  match s with
  | '#' :: rest => numberReference state rest
  | c :: _ =>
    if isAsciiLetter c then
      let inName := fun (d : Char) => isAsciiLetter d || isAsciiDigit d || d = '-' || d = '.'
      let run := s.takeWhile inName
      let after := s.dropWhile inName
      let name :=
        if after.isEmpty then
          (run.reverse.dropWhile fun d => isAsciiLetter d || isAsciiDigit d).reverse.dropLast
        else run
      if name.isEmpty then
        .ok (.leave [] (if final && s.length = 1 then s else '&' :: s))
      else
        let chars := (characterOf? name).getD ('&' :: name)
        let rest := s.drop name.length
        .ok (.next [.chars chars] (if rest.head? = some ';' then rest.drop 1 else rest) state)
    else .ok (.next [.chars ['&']] s state)
  | [] => .ok (.leave [] ['&'])

/-- The length of the text before the next place where markup may begin. -/
def plainLength? (state : State) (s : List Char) : Option Nat :=
  match state.verbatim with
  | none => some (s.takeWhile fun c => c ≠ '<' && c ≠ '&').length
  | some name => closing? name.toList s
where
  /-- The position of the first closing tag of a name. -/
  closing? (name : List Char) : List Char → Option Nat
    | [] => none
    | c :: rest =>
      if isClosing name (c :: rest) then some 0 else (closing? name rest).map (· + 1)
  /-- Whether a text begins with a closing tag of a name. -/
  isClosing (name s : List Char) : Bool :=
    match s with
    | '<' :: '/' :: rest =>
      let body := rest.dropWhile isBlank
      lower (body.take name.length) == name &&
        ((body.drop name.length).dropWhile isBlank).head? == some '>'
    | _ => false

/-- What is left of a text that begins with markup which is not complete, taken as text: it runs to
the next closing bracket, or else to the next opening one. -/
def incomplete (s : List Char) : List Char × List Char :=
  match afterBracket? (s.drop 1) with
  | some after => (s.take (s.length - after.length), after)
  | none =>
    let run := (s.drop 1).takeWhile (· ≠ '<')
    if run.length + 1 < s.length then (s.take (run.length + 1), s.drop (run.length + 1))
    else (s.take 1, s.drop 1)

/-- The events of a text: `final` tells whether its end is final, and `fuel` bounds the steps. -/
def eventsFrom : Nat → Bool → State → List Char → Except Fault (List Event)
  | 0, _, _, _ => return []
  | _, _, _, [] => return []
  | fuel + 1, final, state, s =>
    match plainLength? state s with
    | none => if final then return [] else eventsFrom fuel true state s
    | some n => do
      let plain : List Event := if n = 0 then [] else [.chars (s.take n)]
      let rest := s.drop n
      let step ← match rest with
        | [] => .ok (Step.next [] [] state)
        | '&' :: after => reference final state after
        | _ :: after => bracket state after
      match step with
      | .next events after state => return plain ++ events ++ (← eventsFrom fuel final state after)
      | .wait =>
        if final then
          let (text, after) := incomplete rest
          return plain ++ .chars text :: (← eventsFrom fuel final state after)
        else return plain ++ (← eventsFrom fuel true state rest)
      | .leave events after =>
        if final then
          return plain ++ events ++ (if state.verbatim.isSome then [] else [.chars after])
        else return plain ++ events ++ (← eventsFrom fuel true state after)

/-- The events of a text. -/
def events (s : List Char) : Except Fault (List Event) :=
  eventsFrom (2 * s.length + 2) false {} s

end Extraction.Markup.Lenient
