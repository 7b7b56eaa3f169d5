import Extraction.Charset.Label
import Extraction.Notice
import Extraction.Text.Blank
import Extraction.Text.Search

/-!
# The encoding that a page declares

A page may declare its encoding in a tag near its start. Some names do not mean what they say: pages
that declare an encoding without printable characters between 128 and 159 are read in one that has
them there. A name that nothing is known about is ignored, with a notice.

## Main definitions

* `Charset.declared?` : the name that a text declares.
* `Charset.label?` : the name that a page declares.
* `Charset.detect` : the name of the encoding in which bytes are to be read.
-/

namespace Extraction.Charset

open Text

/-- The names that mean another encoding than they say. -/
def meanings : List (String × String) :=
  [("iso-8859-1", "windows-1252"), ("iso8859-1", "windows-1252"), ("iso88591", "windows-1252"),
    ("latin-1", "windows-1252"), ("latin1", "windows-1252"), ("us-ascii", "windows-1252"),
    ("ascii", "windows-1252"), ("iso-8859-9", "windows-1254"), ("iso-8859-11", "cp874")]

/-- The encoding of pages that declare none. -/
def usual : String := "utf-8"

/-- How many bytes at the start of a page may declare its encoding. -/
def headSize : Nat := 2048

/-- What follows a lead at the start of a text, whatever its case is; the lead is in lower case. -/
def afterWord? (lead s : List Char) : Option (List Char) :=
  if (s.take lead.length).map asciiLower == lead then some (s.drop lead.length) else none

/-- What follows the occurrences of a lead in a text, whatever their case is, in order. -/
def afterEach (lead : List Char) : List Char → List (List Char)
  | [] => []
  | c :: rest =>
    match afterWord? lead (c :: rest) with
    | some after => after :: afterEach lead rest
    | none => afterEach lead rest

/-- The name at the start of a text: it ends before a blank, a quote, a semicolon or a bracket. -/
def nameAt? (s : List Char) : Option (List Char) :=
  match s.takeWhile fun c => !isBlank c && !(['"', '\'', ';', '>'].contains c) with
  | [] => none
  | name => some name

/-- The name that an attribute of a tag declares, where the text begins after the tag's name: the
last one counts. There is at least one character before it. -/
def attributeName? (s : List Char) : Option (List Char) :=
  let tag := (s.takeWhile (· ≠ '>')).drop 1
  (afterEach "charset=".toList tag).reverse.findSome? fun after =>
    let unquoted := match after with
      | '"' :: rest => rest
      | '\'' :: rest => rest
      | _ => after
    nameAt? (unquoted.dropWhile isBlank)

/-- The name that the value of an attribute of a tag declares, where the text begins after the tag's
name: the last one of the last such attribute counts. The value may have brackets. -/
def contentName? (s : List Char) : Option (List Char) :=
  let tag := (s.takeWhile (· ≠ '>')).drop 1
  let after := s.drop (tag.length + 1)
  (afterEach "content=".toList tag).reverse.findSome? fun rest =>
    match rest ++ after with
    | c :: value =>
      if (c = '"' || c = '\'') && !rest.isEmpty then
        let size := (value.takeWhile fun d => d ≠ '"' && d ≠ '\'').length
        ((afterEach "charset=".toList value).filter fun tail =>
          value.length - tail.length ≤ size).reverse.findSome? nameAt?
      else none
    | [] => none

/-- The name that a text declares, in lower case. -/
def declared? (s : List Char) : Option (List Char) :=
  let tags := afterEach "<meta".toList s
  ((tags.findSome? attributeName?).or (tags.findSome? contentName?)).map fun name =>
    name.map asciiLower

/-- The name that a page declares near its start, or the one that it means. -/
def label? (bs : List UInt8) : Option String :=
  let head := ((bs.take headSize).filter fun b => b < 128).map fun b => Char.ofNat b.toNat
  (declared? head).map fun name =>
    let name := String.ofList name
    (meanings.lookup name).getD name

/-- The name of the encoding in which bytes are to be read, with a notice if the declared name is
not that of an encoding. A name with a character of code zero in it cannot be looked up. -/
def detect (bs : List UInt8) : Except Fault String × List Notice :=
  match label? bs with
  | none => (.ok usual, [])
  | some name =>
    if name.toList.contains (Char.ofNat 0) then (.error .nullInName, [])
    else if (ofLabel? name.toList).isSome then (.ok name, [])
    else (.ok usual, [.unknownCharset name])

end Extraction.Charset
