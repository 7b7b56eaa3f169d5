import Extraction.Markup.Character
import Extraction.Markup.Event
import Extraction.Text.Case

/-!
# The mending reader of hypertext

This reader knows which elements may stand in which: it opens a missing root, head, body or
paragraph, and it closes an element before another one that may not be in it. A closing tag closes
its element unless one of a higher rank is open in it.

## Main definitions

* `Markup.Mending.closesBefore` : which elements are closed before which others.
* `Markup.Mending.rank` : the ranks of elements.
* `Markup.Mending.State` : where the reading stands.
* `Markup.Mending.document` : the document of a text.
-/

namespace Extraction.Markup.Mending

open Text

/-- The names of characters that this reader knows. -/
def knownNames : List String := [
  "AElig Aacute Acirc Agrave Alpha Aring Atilde Auml Beta Ccedil Chi Dagger Delta ETH Eacute",
  "Ecirc Egrave Epsilon Eta Euml Gamma Iacute Icirc Igrave Iota Iuml Kappa Lambda Mu Ntilde Nu",
  "OElig Oacute Ocirc Ograve Omega Omicron Oslash Otilde Ouml Phi Pi Prime Psi Rho Scaron Sigma",
  "THORN Tau Theta Uacute Ucirc Ugrave Upsilon Uuml Xi Yacute Yuml Zeta aacute acirc acute",
  "aelig agrave alefsym alpha amp and ang apos aring asymp atilde auml bdquo beta brvbar bull",
  "cap ccedil cedil cent chi circ clubs cong copy crarr cup curren dArr dagger darr deg delta",
  "diams divide eacute ecirc egrave empty emsp ensp epsilon equiv eta eth euml euro exist fnof",
  "forall frac12 frac14 frac34 frasl gamma ge gt hArr harr hearts hellip iacute icirc iexcl",
  "igrave image infin int iota iquest isin iuml kappa lArr lambda lang laquo larr lceil ldquo",
  "le lfloor lowast loz lrm lsaquo lsquo lt macr mdash micro middot minus mu nabla nbsp ndash",
  "ne ni not notin nsub ntilde nu oacute ocirc oelig ograve oline omega omicron oplus or ordf",
  "ordm oslash otilde otimes ouml para part permil perp phi pi piv plusmn pound prime prod prop",
  "psi quot rArr radic rang raquo rarr rceil rdquo real reg rfloor rho rlm rsaquo rsquo sbquo",
  "scaron sdot sect shy sigma sigmaf sim spades sub sube sum sup sup1 sup2 sup3 supe szlig tau",
  "there4 theta thetasym thinsp thorn tilde times trade uArr uacute uarr ucirc ugrave uml upsih",
  "upsilon uuml weierp xi yacute yen yuml zeta zwj zwnj"]

/-- The character of a name that this reader knows. -/
def characterOf? (name : List Char) : Option (List Char) :=
  if knownNames.any fun line => (splitOn [' '] line.toList).contains name then
    Markup.characterOf? name
  else none

/-- Words of a line. -/
def wordsOf (line : String) : List String :=
  (splitOn [' '] line.toList).map String.ofList

/-- For elements, the elements before which they are closed. -/
def closings : List (String × List String) :=
  let breaks := "dd dl dt fieldset form li table ul"
  let headings := "fieldset form li p table"
  [("a", "a fieldset table td th"), ("address", "dd dl dt form li ul"), ("b", "center p td th"),
    ("big", "p"), ("caption", "col colgroup tbody tfoot thead tr"),
    ("col", "col colgroup tbody tfoot thead tr"), ("colgroup", "colgroup tbody tfoot thead tr"),
    ("dd", "dt"), ("dir", "dd dl dt form ul"), ("dl", "form li"), ("dt", "dd dl"),
    ("font", "center td th"), ("form", "form"), ("h1", headings), ("h2", headings),
    ("h3", headings), ("h4", headings), ("h5", headings), ("h6", headings),
    ("head", "a abbr acronym address b bdo big blockquote body br center cite code dd dfn dir div " ++
      "dl dt em fieldset font form frameset h1 h2 h3 h4 h5 h6 hr i iframe img kbd li listing map " ++
      "menu ol p pre q s samp small span strike strong sub sup table tt u ul var xmp"),
    ("hr", "form"), ("i", "center"), ("li", "li"), ("legend", "fieldset"),
    ("link", "body frameset"), ("listing", breaks), ("menu", "dd dl dt form ul"), ("ol", "form"),
    ("option", "optgroup option"),
    ("p", "address blockquote body caption center col colgroup dd dir div dl dt frameset h1 h2 h3 " ++
      "h4 h5 h6 head hr li listing menu multicol ol p pre table tbody td tfoot th title tr ul xmp"),
    ("pre", breaks), ("s", "p"), ("script", "noscript"), ("small", "p"), ("span", "td th"),
    ("strike", "p"), ("style", "body frameset"), ("tbody", "tbody tfoot"),
    ("td", "tbody td tfoot th tr"), ("tfoot", "tbody"), ("th", "tbody td tfoot th tr"),
    ("thead", "tbody tfoot"), ("title", "body frameset"), ("tr", "tbody tfoot tr"), ("tt", "p"),
    ("u", "p td th"), ("ul", "address form menu ol pre"), ("xmp", breaks)].map
      fun (name, line) => (name, wordsOf line)

/-- Whether an open element is closed before another one is opened. -/
def closesBefore (name next : String) : Bool :=
  ((closings.lookup name).getD []).contains next

/-- The rank of an element: a closing tag does not reach beyond an element of a higher rank. -/
def rank (name : String) : Nat :=
  match name with
  | "div" => 150
  | "td" | "th" => 160
  | "tr" => 170
  | "thead" | "tbody" | "tfoot" => 180
  | "table" => 190
  | "head" | "body" => 200
  | "html" => 220
  | _ => 100

/-- The elements that never have content. -/
def emptyNames : List String :=
  ["area", "base", "basefont", "br", "col", "frame", "hr", "img", "input", "isindex", "link",
    "meta", "param"]

/-- The elements for which a missing head is opened. -/
def headNames : List String :=
  ["script", "style", "meta", "link", "title", "base"]

/-- Where the reading stands. -/
structure State where
  /-- The names of the open elements, the innermost first. -/
  stack : List String := []
  /-- Whether there has been a head. -/
  hadHead : Bool := false
  /-- Whether there has been a body. -/
  hadBody : Bool := false
  /-- How many opening tags of the root, the head and the body have been dropped. -/
  dropped : Nat := 0
  /-- The events so far, the last one first. -/
  events : List Event := []
  deriving Repr

namespace State

/-- The name of the innermost open element. -/
def current? (st : State) : Option String :=
  st.stack.head?

/-- An event has happened. -/
def emit (st : State) (e : Event) : State :=
  { st with events := e :: st.events }

/-- An element is opened. -/
def push (st : State) (name : String) (attributes : List Attribute := []) : State :=
  { st.emit (.opened { name, attributes }) with
    stack := name :: st.stack
    hadHead := st.hadHead || st.hadBody || name == "head" || name == "body"
    hadBody := st.hadBody || name == "body" }

/-- The innermost element is closed. -/
def pop (st : State) : State :=
  match st.stack with
  | [] => st
  | name :: rest => { st.emit (.closed name none) with stack := rest }

/-- Elements are closed that may not have another one in them: `fuel` bounds their number. -/
def closeBefore (next : String) : Nat → State → State
  | 0, st => st
  | fuel + 1, st =>
    match st.current? with
    | some name => if closesBefore name next then closeBefore next fuel st.pop else st
    | none => st

/-- A missing root, head or body is opened before an element. -/
def openMissing (st : State) (next : String) : State :=
  if next == "html" then st
  else
    let st := if st.stack.isEmpty then st.push "html" else st
    if next == "body" || next == "head" then st
    else if st.stack.length ≤ 1 && headNames.contains next then
      if st.hadHead then st else st.push "head"
    else if ["noframes", "frame", "frameset"].contains next then st
    else if st.hadBody || st.stack.contains "body" || st.stack.contains "head" then st
    else st.push "body"

/-- All that has to happen before an element is opened. -/
def prepare (st : State) (next : String) : State :=
  (closeBefore next st.stack.length st).openMissing next

/-- A missing paragraph is opened before a text. -/
def openParagraph (st : State) : State :=
  match st.current? with
  | none | some "html" | some "head" => (st.prepare "p").push "p"
  | _ => st

/-- A text that is not all blanks is met. -/
def text (st : State) (s : List Char) : State :=
  if s.isEmpty then st else st.openParagraph.emit (.chars s)

/-- Elements are closed up to and including the innermost one of a name, if no element of a higher
rank is open in it. -/
def close (st : State) (name : String) : State :=
  let inside := st.stack.takeWhile (· != name)
  if inside.length = st.stack.length || inside.any fun n => rank n > rank name then st
  else (inside.length + 1).repeat pop st

end State

/-- Whether a character is a blank of markup. -/
def isSpace (c : Char) : Bool :=
  [' ', '\n', '\t', '\r'].contains c

/-- Whether a character is a letter of ASCII. -/
def isLetter (c : Char) : Bool :=
  ('a' ≤ c && c ≤ 'z') || ('A' ≤ c && c ≤ 'Z')

/-- Whether a name may begin with a character. -/
def startsName (c : Char) : Bool :=
  isLetter c || c = '_' || c = ':' || c = '.'

/-- Whether a name may have a character. -/
def isNameChar (c : Char) : Bool :=
  startsName c || isAsciiDigit c || c = '-'

/-- The name at the start of a text in lower case, and what follows it. -/
def readName? (s : List Char) : Option (String × List Char) :=
  match s with
  | [] => none
  | c :: _ =>
    if startsName c then
      some (String.ofList ((s.takeWhile isNameChar).map asciiLower), s.dropWhile isNameChar)
    else none

/-- The characters of a number. -/
def numbered (n : Nat) : List Char :=
  let allowed :=
    n == 9 || n == 10 || n == 13 || (32 ≤ n && isCodePoint n && n ≠ 0xFFFE && n ≠ 0xFFFF)
  if allowed then [Char.ofNat n] else []

/-- The characters of the reference after an ampersand, and what follows it. A name counts only with
a semicolon after it. -/
def readReference (s : List Char) : List Char × List Char :=
  match s with
  | '#' :: rest =>
    match readNumeral? rest with
    | some (n, _, after) => (numbered n.value, after)
    | none => ([], rest.drop (if rest.head?.any fun c => c = 'x' || c = 'X' then 1 else 0))
  | _ =>
    let inName := fun (c : Char) => isLetter c || isAsciiDigit c || ['_', '-', ':', '.'].contains c
    let name := if s.head?.any startsName then s.takeWhile inName else []
    let rest := s.drop name.length
    match if rest.head? == some ';' then characterOf? name else none with
    | some cs => (cs, rest.drop 1)
    | none => ('&' :: name, rest)

/-- A text with its references replaced: `fuel` bounds its length. -/
def expand : Nat → List Char → List Char
  | 0, _ => []
  | _, [] => []
  | fuel + 1, '&' :: rest =>
    let (cs, after) := readReference rest
    cs ++ expand fuel after
  | fuel + 1, c :: rest => c :: expand fuel rest

/-- The value of an attribute, and what follows it. -/
def readValue (s : List Char) : List Char × List Char :=
  match s with
  | c :: rest =>
    if c = '"' || c = '\'' then
      (rest.takeWhile (· ≠ c), (rest.dropWhile (· ≠ c)).drop 1)
    else
      let isBare := fun (d : Char) => !isSpace d && d ≠ '>'
      (s.takeWhile isBare, s.dropWhile isBare)
  | [] => ([], [])

/-- The attributes at the start of a text, and what follows them: `fuel` bounds the steps. What is
no attribute is skipped up to the next blank. -/
def readAttributes : Nat → List Char → List (String × String) × List Char
  | 0, s => ([], s)
  | fuel + 1, s =>
    match s.dropWhile isSpace with
    | [] => ([], [])
    | '>' :: rest => ([], '>' :: rest)
    | '/' :: '>' :: rest => ([], '/' :: '>' :: rest)
    | c :: rest =>
      match readName? (c :: rest) with
      | some (name, after) =>
        let tail := after.dropWhile isSpace
        match tail with
        | '=' :: body =>
          let (value, after) := readValue (body.dropWhile isSpace)
          let (more, tail) := readAttributes fuel after
          ((name, String.ofList (expand value.length value)) :: more, tail)
        | _ =>
          let (more, tail) := readAttributes fuel tail
          ((name, "") :: more, tail)
      | none =>
        let junk := fun (d : Char) => !isSpace d && d ≠ '>' && d ≠ '/'
        readAttributes fuel (rest.dropWhile junk)

/-- Attributes as they are kept: of several of one name the first one counts. -/
def attributesOf (raw : List (String × String)) : List Attribute :=
  raw.foldl (fun as (name, value) =>
    if as.any fun (a : Attribute) => a.name == name then as else as ++ [{ name, value }]) []

/-- Whether an opening tag is dropped: there may be one root, and one head and one body in it. -/
def isDropped (st : State) (name : String) : Bool :=
  match name with
  | "html" => !st.stack.isEmpty
  | "head" => st.stack.length != 1
  | "body" => st.stack.contains "body"
  | _ => false

/-- An opening tag of a name, which the text follows, and what follows the tag. -/
def openingTag (st : State) (name : String) (s : List Char) : State × List Char :=
  let st := st.prepare name
  let (raw, tail) := readAttributes (s.length + 1) s
  if isDropped st name then
    let after := match tail with
      | '/' :: '>' :: rest => rest
      | _ => tail.drop 1
    ({ st with dropped := st.dropped + 1 }, after)
  else
    let st := st.push name (attributesOf raw)
    match tail with
    | '/' :: '>' :: rest => (st.pop, rest)
    | '>' :: rest => (if emptyNames.contains name then st.pop else st, rest)
    | _ => (st.pop, tail)

/-- A closing tag of a name. -/
def closingTag (st : State) (name : String) : State :=
  if st.dropped > 0 && ["html", "head", "body"].contains name then
    { st with dropped := st.dropped - 1 }
  else st.close name

/-- What follows the next bracket. -/
def afterBracket (s : List Char) : List Char :=
  (s.dropWhile (· ≠ '>')).drop 1

/-- A text in quotes, and what follows it. -/
def readQuoted? (s : List Char) : Option (List Char × List Char) :=
  match s.dropWhile isSpace with
  | c :: rest =>
    if c = '"' || c = '\'' then
      some (rest.takeWhile (· ≠ c), (rest.dropWhile (· ≠ c)).drop 1)
    else none
  | [] => none

/-- A declaration of the document's type after its keyword, as it is kept. -/
def doctypeOf (s : List Char) : List Char :=
  let s := s.dropWhile isSpace
  let inName := fun (c : Char) => !isSpace c && c ≠ '>'
  let name := s.takeWhile inName
  let body := (s.dropWhile inName).dropWhile isSpace
  let keyword := upper (body.take 6)
  let quoted := fun (t : List Char) => '"' :: t ++ ['"']
  if keyword == "PUBLIC".toList then
    match readQuoted? (body.drop 6) with
    | none => name
    | some (shown, rest) =>
      let value := name ++ " PUBLIC ".toList ++ quoted shown
      match readQuoted? rest with
      | none => value
      | some (system, _) => value ++ ' ' :: quoted system
  else if keyword == "SYSTEM".toList then
    match readQuoted? (body.drop 6) with
    | none => name
    | some (system, _) => name ++ " SYSTEM ".toList ++ quoted system
  else name

/-- An aside at the start of a text, if there is one, and what follows it. What is not proper markup
is dropped. -/
def readAside? (s : List Char) : Option (List Event × List Char) :=
  match s with
  | '<' :: '!' :: '-' :: '-' :: rest =>
    match cut? "-->".toList rest with
    | some (body, after) => some ([.aside .comment body], after)
    | none => some ([], [])
  | '<' :: '!' :: rest =>
    if upper (rest.take 7) == "DOCTYPE".toList then
      some ([.aside .doctype (doctypeOf (rest.drop 7))], afterBracket rest)
    else some ([], afterBracket rest)
  | '<' :: '?' :: rest =>
    match readName? rest with
    | some (_, tail) =>
      let name := rest.take (rest.length - tail.length)
      let body := (tail.dropWhile isSpace).takeWhile (· ≠ '>')
      some ([.aside .instruction (name ++ ' ' :: body)], afterBracket tail)
    | none => some ([], afterBracket rest)
  | _ => none

/-- The asides before the first element, and what follows them: `fuel` bounds their number. -/
def prolog : Nat → List Char → List Event × List Char
  | 0, s => ([], s)
  | fuel + 1, s =>
    let s := s.dropWhile isSpace
    match readAside? s with
    | some (es, rest) =>
      let (more, tail) := prolog fuel rest
      (es ++ more, tail)
    | none => ([], s)

/-- The text of a script up to its closing tag, and what follows from that tag's bracket on. -/
def cutScript (name : List Char) : List Char → List Char × List Char
  | [] => ([], [])
  | c :: rest =>
    if c = '<' && rest.head? == some '/' && (rest.drop 1 |>.take name.length).map asciiLower == name
    then ([], c :: rest)
    else
      let (text, after) := cutScript name rest
      (c :: text, after)

/-- A text between tags: blanks right in the root or the head are kept there, and any other text
opens a missing paragraph. -/
def plainText (st : State) (s : List Char) (more : Bool) : State :=
  let blank := s.all isSpace
  if s.isEmpty then st
  else if blank && !more then st.emit (.chars s)
  else if s.contains '&' then st.text (expand s.length s)
  else if blank && [none, some "html", some "head"].contains st.current? then st.emit (.chars s)
  else st.text s

/-- The state after the elements: `fuel` bounds the steps. When the root is closed, only blanks and
asides count. -/
def content : Nat → State → List Char → State
  | 0, st, _ => st
  | _, st, [] => st
  | fuel + 1, st, s =>
    match st.current? with
    | some "script" | some "style" =>
      let name := (st.current?.getD "").toList
      let (text, after) := cutScript name s
      let st := if text.isEmpty then st else st.emit (.chars text)
      content fuel (closingTag st (String.ofList name)) (afterBracket after)
    | _ =>
      match readAside? s with
      | some (es, rest) => content fuel (es.foldl State.emit st) rest
      | none =>
        match s with
        | '<' :: '/' :: rest =>
          match readName? rest with
          | some (name, tail) =>
            let st := closingTag st name
            if st.stack.isEmpty then epilog fuel st (afterBracket tail)
            else content fuel st (afterBracket tail)
          | none => content fuel st rest
        | '<' :: rest =>
          match readName? rest with
          | some (name, tail) =>
            let (st, after) := openingTag st name tail
            content fuel st after
          | none => content fuel (st.emit (.chars ['<'])) rest
        | _ =>
          let text := s.takeWhile (· ≠ '<')
          let rest := s.dropWhile (· ≠ '<')
          content fuel (plainText st text (!rest.isEmpty)) rest
where
  /-- What follows the root. -/
  epilog (fuel : Nat) (st : State) (s : List Char) : State :=
    let blanks := s.takeWhile isSpace
    let st := if blanks.isEmpty then st else st.emit (.chars blanks)
    (prolog fuel (s.dropWhile isSpace)).1.foldl State.emit st

/-- The document of a text. -/
def document (s : List Char) : Document :=
  let (before, rest) := prolog s.length s
  let st := content (s.length + 1) { events := before.reverse } rest
  ⟨.hypertext, treeOf .hypertext st.events.reverse,
    [("xml", "http://www.w3.org/XML/1998/namespace")]⟩

end Extraction.Markup.Mending
