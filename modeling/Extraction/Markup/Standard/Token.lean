import Extraction.Markup.Character
import Extraction.Markup.Lenient

/-!
# Tokens of hypertext

Browsers read hypertext as a sequence of tokens: tags, asides and texts. A run of blanks is a token
of its own where it begins a text. How a text is cut into tokens depends on the element around it:
in some elements only the closing tag of the element counts as markup. A reference by a decimal
number of too many digits is a fault, also in a tag that is not complete.

## Main definitions

* `Markup.Standard.Token` : the tokens.
* `Markup.Standard.Lexing` : what counts as markup.
* `Markup.Standard.readToken` : the tokens at the start of a text, and what follows them.
-/

namespace Extraction.Markup.Standard

open Text

/-- A token of hypertext. -/
inductive Token where
  /-- A text that does not begin with a blank. -/
  | text (s : List Char)
  /-- A run of blanks. -/
  | blanks (s : List Char)
  /-- A tag that opens an element. -/
  | start (name : String) (attributes : List Attribute) (closes : Bool)
  /-- A tag that closes an element. -/
  | stop (name : String)
  /-- A comment. -/
  | comment (s : List Char)
  /-- A declaration of the document's type: how it is kept, and whether it asks for the layout of
  old browsers. -/
  | doctype (value : List Char) (old : Bool)
  deriving Repr

/-- What counts as markup. -/
inductive Lexing where
  /-- Tags, asides and references. -/
  | markup
  /-- References and the closing tag of an element. -/
  | references (name : String)
  /-- The closing tag of an element. -/
  | verbatim (name : String)
  /-- The closing tag of a script, unless it is in a comment together with an opening one. -/
  | script
  /-- Nothing. -/
  | nothing
  deriving DecidableEq, Repr

/-- Whether a character is a blank of hypertext. -/
def isSpace (c : Char) : Bool :=
  [' ', '\n', '\t', '\x0c', '\r'].contains c

/-- A character as it is kept: one of code zero is unreadable. -/
def kept (c : Char) : Char :=
  if c = '\x00' then unreadable else c

/-- A text as a token: one of blanks only is a run of blanks. -/
def textToken (s : List Char) : Token :=
  if s.all isSpace then .blanks s else .text s

/-- A text as tokens: a run of blanks at the start is a token of its own. -/
def textTokens (s : List Char) : List Token :=
  let blanks := s.takeWhile isSpace
  let rest := s.dropWhile isSpace
  (if blanks.isEmpty then [] else [.blanks blanks]) ++ if rest.isEmpty then [] else [.text rest]

/-- The characters of a number: those from 128 to 159 are taken from the Western table. -/
def numbered (n : Nat) : Char :=
  match Charset.westernCode? n with
  | some code => Char.ofNat code
  | none => if n = 0 || !isCodePoint n then unreadable else Char.ofNat n

/-- The characters of the reference after an ampersand, and what follows it: nothing if it is no
reference. In an attribute, a name without a semicolon is none if a letter, a digit or an equals
sign follows. -/
def readReference (inAttribute : Bool) (s : List Char) : Reading (List Char × List Char) :=
  match s with
  | '#' :: rest => do
    let (numeral, _, after) ← readNumeral? rest
    let n ← (numeral.read : Except Fault Nat)
    return ([numbered n], after)
  | _ => do
    let isNamePart := fun (c : Char) => Lenient.isAsciiLetter c || isAsciiDigit c
    let name := (s.takeWhile isNamePart).take 32
    let after := s.drop name.length
    let whole := if after.head? = some ';' then characterOf? name else none
    match whole with
    | some cs => return (cs, after.drop 1)
    | none =>
      let (cs, rest) ← longestBare? s name.length
      if inAttribute && rest.head?.any (fun c => isNamePart c || c = '=') then failure
      return (cs, rest)

/-- A text with its references replaced, in the value of an attribute or elsewhere: `fuel` bounds
its length. -/
def expandFrom (inAttribute : Bool) : Nat → List Char → Except Fault (List Char)
  | 0, _ => return []
  | _, [] => return []
  | fuel + 1, '&' :: rest => do
    match ← (readReference inAttribute rest).run with
    | some (cs, after) => return cs ++ (← expandFrom inAttribute fuel after)
    | none => return '&' :: (← expandFrom inAttribute fuel rest)
  | fuel + 1, c :: rest => return kept c :: (← expandFrom inAttribute fuel rest)

/-- A text with its references replaced. -/
def expand (inAttribute : Bool) (s : List Char) : Except Fault (List Char) :=
  expandFrom inAttribute s.length s

/-- The name of a tag or an attribute as it is kept. -/
def nameOf (s : List Char) : String :=
  String.ofList (s.map fun c => asciiLower (kept c))

/-- The value after the equals sign of an attribute, and what follows it; nothing if the text ends
before. The references in a value that is not closed are read, too. -/
def readValue (s : List Char) : Reading (List Char × List Char) := do
  match s.dropWhile isSpace with
  | [] => failure
  | c :: rest =>
    if c = '"' || c = '\'' then
      let value ← (expand true (rest.takeWhile (· ≠ c)) : Except Fault (List Char))
      match rest.dropWhile (· ≠ c) with
      | [] => failure
      | _ :: after => return (value, after)
    else
      let isBare := fun (d : Char) => !isSpace d && d ≠ '>'
      let value ← (expand true ((c :: rest).takeWhile isBare) : Except Fault (List Char))
      return (value, (c :: rest).dropWhile isBare)

/-- The attributes of a tag, whether it closes the element at once, and what follows the tag;
nothing if the text ends before: `fuel` bounds the steps. -/
def readAttributes : Nat → List Char → Reading (List (String × String) × Bool × List Char)
  | 0, _ => failure
  | fuel + 1, s =>
    match s.dropWhile isSpace with
    | [] => failure
    | '>' :: after => return ([], false, after)
    | '/' :: '>' :: after => return ([], true, after)
    | '/' :: rest => readAttributes fuel rest
    | c :: rest => do
      let inName := fun (d : Char) => !isSpace d && d ≠ '=' && d ≠ '>' && d ≠ '/'
      let name := nameOf (c :: rest.takeWhile inName)
      let after := rest.dropWhile inName
      match after.dropWhile isSpace with
      | '=' :: body =>
        let (value, tail) ← readValue body
        let (more, closes, tail) ← readAttributes fuel tail
        return ((name, String.ofList value) :: more, closes, tail)
      | _ =>
        let (more, closes, tail) ← readAttributes fuel after
        return ((name, "") :: more, closes, tail)

/-- Attributes as they are kept: of several of one name the first one counts. -/
def attributesOf (raw : List (String × String)) : List Attribute :=
  raw.foldl (fun as (name, value) =>
    if as.any fun (a : Attribute) => a.name == name then as else as ++ [{ name, value }]) []

/-- The tag at the start of a text, after its bracket and, in a closing tag, after the slash; and
what follows it. A tag that is not complete is dropped with all that follows. -/
def readTag (closing : Bool) (s : List Char) : Except Fault (List Token × List Char) := do
  let inName := fun (c : Char) => !isSpace c && c ≠ '/' && c ≠ '>'
  let name := nameOf (s.takeWhile inName)
  match ← (readAttributes (s.length + 1) (s.dropWhile inName)).run with
  | none => return ([], [])
  | some (attributes, closes, after) =>
    if closing then return ([.stop name], after)
    else return ([.start name (attributesOf attributes) closes], after)

/-- The body of a comment after its first characters, and what follows it. It ends with two hyphens
and a bracket, with or without an exclamation mark between them, or with the text. -/
def readCommentBody : List Char → List Char × List Char
  | '-' :: '-' :: '>' :: after => ([], after)
  | '-' :: '-' :: '!' :: '>' :: after => ([], after)
  | ['-', '-', '!'] => ([], [])
  | ['-', '-'] => ([], [])
  | ['-'] => ([], [])
  | c :: rest =>
    let (body, after) := readCommentBody rest
    (kept c :: body, after)
  | [] => ([], [])

/-- The body of a comment after its opening, and what follows it. -/
def readComment : List Char → List Char × List Char
  | '>' :: after => ([], after)
  | '-' :: '>' :: after => ([], after)
  | s => readCommentBody s

/-- What is not proper markup, as a comment up to the next bracket, and what follows it. -/
def bogusComment (s : List Char) : List Token × List Char :=
  ([.comment ((s.takeWhile (· ≠ '>')).map kept)], (s.dropWhile (· ≠ '>')).drop 1)

/-- The public identifiers, or how they begin, that ask for the layout of old browsers. -/
def oldIdentifiers : List String := [
  "+//silmaril//dtd html pro v0r11 19970101//",
  "-//advasoft ltd//dtd html 3.0 aswedit + extensions//",
  "-//as//dtd html 3.0 aswedit + extensions//", "-//ietf//dtd html 2.0 level 1//",
  "-//ietf//dtd html 2.0 level 2//", "-//ietf//dtd html 2.0 strict level 1//",
  "-//ietf//dtd html 2.0 strict level 2//", "-//ietf//dtd html 2.0 strict//",
  "-//ietf//dtd html 2.0//", "-//ietf//dtd html 2.1e//", "-//ietf//dtd html 3.0//",
  "-//ietf//dtd html 3.2 final//", "-//ietf//dtd html 3.2//", "-//ietf//dtd html 3//",
  "-//ietf//dtd html level 0//", "-//ietf//dtd html level 1//", "-//ietf//dtd html level 2//",
  "-//ietf//dtd html level 3//", "-//ietf//dtd html strict level 0//",
  "-//ietf//dtd html strict level 1//", "-//ietf//dtd html strict level 2//",
  "-//ietf//dtd html strict level 3//", "-//ietf//dtd html strict//", "-//ietf//dtd html//",
  "-//metrius//dtd metrius presentational//",
  "-//microsoft//dtd internet explorer 2.0 html strict//",
  "-//microsoft//dtd internet explorer 2.0 html//",
  "-//microsoft//dtd internet explorer 2.0 tables//",
  "-//microsoft//dtd internet explorer 3.0 html strict//",
  "-//microsoft//dtd internet explorer 3.0 html//",
  "-//microsoft//dtd internet explorer 3.0 tables//",
  "-//netscape comm. corp.//dtd html//", "-//netscape comm. corp.//dtd strict html//",
  "-//o'reilly and associates//dtd html 2.0//",
  "-//o'reilly and associates//dtd html extended 1.0//",
  "-//o'reilly and associates//dtd html extended relaxed 1.0//",
  "-//softquad software//dtd hotmetal pro 6.0::19990601::extensions to html 4.0//",
  "-//softquad//dtd hotmetal pro 4.0::19971010::extensions to html 4.0//",
  "-//spyglass//dtd html 2.0 extended//", "-//sq//dtd html 2.0 hotmetal + extensions//",
  "-//sun microsystems corp.//dtd hotjava html//",
  "-//sun microsystems corp.//dtd hotjava strict html//", "-//w3c//dtd html 3 1995-03-24//",
  "-//w3c//dtd html 3.2 draft//", "-//w3c//dtd html 3.2 final//", "-//w3c//dtd html 3.2//",
  "-//w3c//dtd html 3.2s draft//", "-//w3c//dtd html 4.0 frameset//",
  "-//w3c//dtd html 4.0 transitional//", "-//w3c//dtd html experimental 19960712//",
  "-//w3c//dtd html experimental 970421//", "-//w3c//dtd w3 html//", "-//w3o//dtd w3 html 3.0//",
  "-//webtechs//dtd mozilla html 2.0//", "-//webtechs//dtd mozilla html//"]

/-- The public identifiers that ask for the layout of old browsers only as a whole. -/
def oldWholeIdentifiers : List String :=
  ["-//w3o//dtd w3 html strict 3.0//en//", "-/w3c/dtd html 4.0 transitional/en", "html"]

/-- How the public identifiers begin that ask for the layout of old browsers without a system
identifier. -/
def oldUnlessSystem : List String :=
  ["-//w3c//dtd html 4.01 frameset//", "-//w3c//dtd html 4.01 transitional//"]

/-- The system identifier that asks for the layout of old browsers. -/
def oldSystemIdentifier : String := "http://www.ibm.com/data/dtd/v11/ibmxhtml1-transitional.dtd"

/-- A declaration of the document's type. -/
structure Doctype where
  /-- The name. -/
  name : List Char := []
  /-- The public identifier. -/
  shown : Option (List Char) := none
  /-- The system identifier. -/
  system : Option (List Char) := none
  /-- Whether it is well formed. -/
  correct : Bool := true

namespace Doctype

/-- A declaration as it is kept. -/
def value (d : Doctype) : List Char :=
  let quoted := fun (s : List Char) => '"' :: s ++ ['"']
  match d.shown, d.system with
  | some p, some s => d.name ++ " PUBLIC ".toList ++ quoted p ++ ' ' :: quoted s
  | some p, none => d.name ++ " PUBLIC ".toList ++ quoted p
  | none, some s => d.name ++ " SYSTEM ".toList ++ quoted s
  | none, none => d.name

/-- Whether a declaration asks for the layout of old browsers. -/
def isOld (d : Doctype) : Bool :=
  let shown := (d.shown.getD []).map asciiLower
  let begins := fun (lead : String) => startsWith shown lead.toList
  !d.correct || d.name != "html".toList || oldIdentifiers.any begins ||
    oldWholeIdentifiers.contains (String.ofList shown) ||
    (d.system.isNone && oldUnlessSystem.any begins) ||
    (d.system.any fun s => s.map asciiLower == oldSystemIdentifier.toList)

/-- A declaration as a token. -/
def token (d : Doctype) : Token :=
  .doctype d.value d.isOld

end Doctype

/-- What follows the next bracket. -/
def afterBracket (s : List Char) : List Char :=
  (s.dropWhile (· ≠ '>')).drop 1

/-- An identifier in quotes: whether it is closed by its quote, and what follows it. -/
def readIdentifier (quote : Char) (s : List Char) : List Char × Bool × List Char :=
  let inside := fun (c : Char) => c ≠ quote && c ≠ '>'
  let body := (s.takeWhile inside).map kept
  match s.dropWhile inside with
  | c :: after => (body, c = quote, after)
  | [] => (body, false, [])

/-- The rest of a declaration after its public identifier, or after the keyword of the system
identifier, which `needed` tells. -/
def readSystem (needed : Bool) (d : Doctype) (s : List Char) : Doctype × List Char :=
  match s.dropWhile isSpace with
  | [] => ({ d with correct := false }, [])
  | c :: rest =>
    if c = '>' then ({ d with correct := d.correct && !needed }, rest)
    else if c = '"' || c = '\'' then
      let (body, closed, after) := readIdentifier c rest
      let d := { d with system := some body }
      if !closed then ({ d with correct := false }, after)
      else
        match after.dropWhile isSpace with
        | [] => ({ d with correct := false }, [])
        | after => (d, afterBracket after)
    else ({ d with correct := false }, afterBracket (c :: rest))

/-- The rest of a declaration after the keyword of the public identifier. -/
def readPublic (d : Doctype) (s : List Char) : Doctype × List Char :=
  match s.dropWhile isSpace with
  | [] => ({ d with correct := false }, [])
  | c :: rest =>
    if c = '"' || c = '\'' then
      let (body, closed, after) := readIdentifier c rest
      let d := { d with shown := some body }
      if closed then readSystem false d after else ({ d with correct := false }, after)
    else ({ d with correct := false }, afterBracket (c :: rest))

/-- A declaration of the document's type after its keyword, and what follows it. -/
def readDoctype (s : List Char) : Doctype × List Char :=
  match s.dropWhile isSpace with
  | [] => ({ correct := false }, [])
  | '>' :: after => ({ correct := false }, after)
  | c :: rest =>
    let inName := fun (d : Char) => !isSpace d && d ≠ '>'
    let name := (c :: rest.takeWhile inName).map fun d => asciiLower (kept d)
    match (rest.dropWhile inName).dropWhile isSpace with
    | [] => ({ name, correct := false }, [])
    | '>' :: after => ({ name }, after)
    | tail =>
      let keyword := String.ofList ((tail.take 6).map asciiLower)
      if keyword == "public" then readPublic { name } (tail.drop 6)
      else if keyword == "system" then readSystem true { name } (tail.drop 6)
      else ({ name, correct := false }, afterBracket tail)

/-- What begins with a bracket and an exclamation mark, and what follows it. Where `foreign` says
so, marked sections of text are read. -/
def readDeclaration (foreign : Bool) (s : List Char) : List Token × List Char :=
  match afterLead? "--".toList s with
  | some body =>
    let (text, after) := readComment body
    ([.comment text], after)
  | none =>
    if String.ofList ((s.take 7).map asciiLower) == "doctype" then
      let (d, after) := readDoctype (s.drop 7)
      ([d.token], after)
    else
      match if foreign then afterLead? "[CDATA[".toList s else none with
      | some body =>
        match cut? "]]>".toList body with
        | some (text, after) => (if text.isEmpty then [] else [.text (text.map kept)], after)
        | none => (if body.isEmpty then [] else [.text (body.map kept)], [])
      | none => bogusComment s

/-- What begins with a bracket, and what follows it; the text begins after the bracket. -/
def readBracket (foreign : Bool) (s : List Char) : Except Fault (List Token × List Char) :=
  match s with
  | '!' :: rest => return readDeclaration foreign rest
  | '?' :: _ => return bogusComment s
  | '>' :: rest => return ([.text ['<', '>']], rest)
  | ['/'] => return ([.text ['<', '/']], [])
  | '/' :: c :: rest =>
    if Lenient.isAsciiLetter c then readTag true (c :: rest)
    else if c = '>' then return ([], rest)
    else return bogusComment (c :: rest)
  | c :: _ => if Lenient.isAsciiLetter c then readTag false s else return ([.text ['<']], s)
  | [] => return ([.text ['<']], [])

/-- Whether a text begins with the name of an element and a character that ends it. -/
def leadsName (name s : List Char) : Bool :=
  (s.take name.length).map asciiLower == name &&
    ((s.drop name.length).head?.any fun c => isSpace c || c = '/' || c = '>')

/-- The text before the closing tag of an element, and what follows, from the bracket of the tag
on. -/
def cutClosing (name : List Char) : List Char → List Char × List Char
  | [] => ([], [])
  | '<' :: '/' :: rest =>
    if leadsName name rest then ([], '<' :: '/' :: rest)
    else
      let (text, after) := cutClosing name ('/' :: rest)
      ('<' :: text, after)
  | c :: rest =>
    let (text, after) := cutClosing name rest
    (c :: text, after)

/-- How much of a script is in a comment. -/
inductive ScriptPart where
  /-- Nothing. -/
  | plain
  /-- The part being read. -/
  | commented
  /-- The part being read, in which a script has been opened. -/
  | nested
  deriving DecidableEq

/-- The text of a script before its closing tag, and what follows, from the bracket of the tag on.
In a comment, a script that is opened there must be closed first. -/
def cutScript (part : ScriptPart) : List Char → List Char × List Char
  | [] => ([], [])
  | c :: rest =>
    let goOn := fun (next : ScriptPart) =>
      let (text, after) := cutScript next rest
      (c :: text, after)
    if c = '<' then
      match rest with
      | '/' :: after =>
        if leadsName "script".toList after then
          if part = .nested then goOn .commented else ([], c :: rest)
        else goOn part
      | '!' :: '-' :: '-' :: _ => goOn (if part = .plain then .commented else part)
      | _ =>
        if part = .commented && leadsName "script".toList rest then goOn .nested else goOn part
    else if c = '-' && startsWith rest ['-', '>'] then goOn .plain
    else goOn part

/-- The tokens at the start of a text that is markup, and what follows them. -/
def readMarkup (foreign : Bool) (s : List Char) : Except Fault (List Token × List Char) := do
  match s with
  | [] => return ([], [])
  | '<' :: rest => readBracket foreign rest
  | '&' :: rest =>
    match ← (readReference false rest).run with
    | some (cs, after) => return ([textToken cs], after)
    | none => return ([.text ['&']], rest)
  | '\x00' :: rest => return ([.text ['\x00']], rest)
  | c :: _ =>
    if isSpace c then return ([.blanks (s.takeWhile isSpace)], s.dropWhile isSpace)
    else
      let plain := fun (d : Char) => d ≠ '&' && d ≠ '<' && d ≠ '\x00'
      return ([.text (s.takeWhile plain)], s.dropWhile plain)

/-- The tokens of the closing tag at the start of a text. -/
def readClosing (s : List Char) : Except Fault (List Token × List Char) :=
  match s with
  | [] => return ([], [])
  | _ => readTag true (s.drop 2)

/-- The tokens at the start of a text, and what follows them. An element whose text is not markup is
read as a whole. -/
def readToken (lexing : Lexing) (foreign : Bool) (s : List Char) :
    Except Fault (List Token × List Char) := do
  let finish := fun (tokens : List Token) (after : List Char) => do
    let (closing, rest) ← readClosing after
    return (tokens ++ closing, rest)
  match lexing with
  | .markup => readMarkup foreign s
  | .references name =>
    let (text, after) := cutClosing name.toList s
    finish (textTokens (← expand false text)) after
  | .verbatim name =>
    let (text, after) := cutClosing name.toList s
    finish (if text.isEmpty then [] else [.text (text.map kept)]) after
  | .script =>
    let (text, after) := cutScript .plain s
    finish (if text.isEmpty then [] else [.text (text.map kept)]) after
  | .nothing => return ([.text (s.map kept)], [])

end Extraction.Markup.Standard
