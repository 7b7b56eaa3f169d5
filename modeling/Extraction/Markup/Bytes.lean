import Extraction.Charset.Declared
import Extraction.Charset.Encoding

/-!
# Markup in bytes

Markup may be given in bytes. Its encoding is told by a mark at the start, or else by a declaration
in the markup; an encoding in which not all bytes can be read is no candidate. The last candidates
are the usual encoding and the Western one. Browsers do not try: without a mark or a declaration
they take the Western one.

## Main definitions

* `Markup.mark?` : the encoding that a mark tells.
* `Markup.declaration?` : the encoding that the markup declares.
* `Markup.triedText`, `Markup.browserText` : bytes as text.
-/

namespace Extraction.Markup

open Text Charset

/-- The encoding that a mark at the start of bytes tells, and what follows the mark. -/
def mark? (bs : List UInt8) : Option (String × List UInt8) :=
  match bs with
  | 0xFF :: 0xFE :: 0 :: 0 :: rest => some ("utf_32_le", rest)
  | 0 :: 0 :: 0xFE :: 0xFF :: rest => some ("utf_32_be", rest)
  | 0xFE :: 0xFF :: rest => some ("utf_16_be", rest)
  | 0xFF :: 0xFE :: rest => some ("utf_16_le", rest)
  | 0xEF :: 0xBB :: 0xBF :: rest => some ("utf_8", rest)
  | _ => none

/-- Bytes as the characters of their codes. -/
def asciiText (bs : List UInt8) : List Char :=
  bs.map fun b => Char.ofNat b.toNat

/-- Whether a character is a blank of ASCII. -/
def isAsciiBlank (c : Char) : Bool :=
  [' ', '\t', '\n', '\r', '\x0b', '\x0c'].contains c

/-- The name in the declaration at the start of markup of the general dialect. -/
def headName? (s : List Char) : Option (List Char) :=
  match s.dropWhile isAsciiBlank with
  | '<' :: '?' :: rest =>
    let line := rest.takeWhile (· ≠ '\n')
    (afterEach "encoding=".toList line).reverse.findSome? fun after =>
      let isQuote := fun (c : Char) => c = '"' || c = '\''
      match after with
      | c :: body =>
        let name := body.takeWhile fun d => !isQuote d
        let tail := body.drop (name.length + 1)
        if isQuote c && name.length < body.length && hasPart "?>".toList tail then some name
        else none
      | [] => none
  | _ => none

/-- What follows the openings of tags that declare data about the page. -/
def metaTags : List Char → List (List Char)
  | [] => []
  | c :: rest =>
    let more := metaTags rest
    if c = '<' then
      match afterWord? "meta".toList (rest.dropWhile isAsciiBlank) with
      | some after => after :: more
      | none => more
    else more

/-- The name that a tag declares: the last one that is followed by a blank or a sign. -/
def tagName? (s : List Char) : Option (List Char) :=
  let tag := s.takeWhile (· ≠ '>')
  let closed := s.drop tag.length |>.take 1
  (afterEach "charset".toList (tag.drop 1)).reverse.findSome? fun after =>
    match (after ++ closed).dropWhile isAsciiBlank with
    | '=' :: rest =>
      let body := rest.dropWhile isAsciiBlank
      let body := if body.head?.any fun c => c = '"' || c = '\'' then body.drop 1 else body
      let inName := fun (c : Char) => !([' ', '/', ';', '\'', '"', '>'].contains c)
      let name := body.takeWhile inName
      if name.length < body.length then some name else none
    | _ => none

/-- The name that markup declares in its first bytes; only hypertext declares it in tags. -/
def declaration? (hypertext : Bool) (bs : List UInt8) : Option (List Char) :=
  let found :=
    match headName? (asciiText (bs.take 1024)) with
    | some name => some name
    | none =>
      if hypertext then
        (metaTags (asciiText (bs.take (max 2048 (bs.length / 20))))).findSome? tagName?
      else none
  match found with
  | some (c :: rest) => some ((c :: rest).map asciiLower)
  | _ => none

/-- The encoding of a declared name: its hyphens may be left out. -/
def encodingOf? (name : List Char) : Option Encoding :=
  let name :=
    if name == "macintosh".toList then "mac-roman".toList
    else if name == "x-sjis".toList then "shift-jis".toList
    else name
  ((ofLabel? name).or (ofLabel? (name.filter (· ≠ '-')))).bind Encoding.ofCodec?

/-- The text of bytes in the first encoding in which all of them can be read. If there is none, the
first candidate is taken, with replacement characters. -/
def triedText (hypertext : Bool) (bs : List UInt8) : List Char :=
  let (marked, body) :=
    match mark? bs with
    | some (codec, rest) => ((Encoding.ofCodec? codec).toList, rest)
    | none => ([], bs)
  let candidates :=
    marked ++ ((declaration? hypertext body).bind encodingOf?).toList ++
      ([Encoding.utf8] ++ (Encoding.ofCodec? "cp1252").toList)
  match candidates.findSome? fun e => e.read? body with
  | some s => s
  | none => (candidates.headD .utf8).read body

/-- The text of bytes in the encoding in which browsers read them. -/
def browserText (bs : List UInt8) : List Char :=
  match mark? bs with
  | some (codec, rest) => ((Encoding.ofCodec? codec).getD .utf8).read rest
  | none =>
    let named := (declared? (asciiText ((bs.take 1024).filter (· < 128)))).bind fun name =>
      let name := String.ofList name
      ofLabel? ((meanings.lookup name).getD name).toList
    let codec := match named with
      | some "utf_16" | some "utf_16_le" | some "utf_16_be" => "utf_8"
      | some codec => codec
      | none => "cp1252"
    ((Encoding.ofCodec? codec).getD .latin).read bs

end Extraction.Markup
