import Extraction.Charset.Declared
import Extraction.Charset.Encoding
import Extraction.Charset.Insertion

/-!
# Bytes of pages and of files

The bytes of a page are read in the encoding that the page declares, and what cannot be read becomes
a replacement character. Some encodings that have a name cannot be used for that. A file of another
kind must be readable as a whole.

## Main definitions

* `Charset.readAs` : bytes as text, in the encoding of a name.
* `Charset.readDeclared` : bytes as text, in the encoding that they declare.
* `Charset.readStrictly` : the text of a file, or the fault at the first byte that is none of it.
-/

namespace Extraction.Charset

/-- The encodings that have no replacement for what cannot be read, and what they say then. -/
def refusals : List (String × String) :=
  [("idna", "Unsupported error handling replace"), ("undefined", "undefined encoding")]

/-- Bytes as text, in the encoding of a name. The usual one need not be looked up. -/
def readAs (name : String) (bs : List UInt8) : Except Fault (List Char) :=
  if name = usual then .ok (Encoding.utf8.read bs)
  else
    match ofLabel? name.toList with
    | none => .error (.unknownEncoding name)
    | some codec =>
      match refusals.lookup codec with
      | some reason => .error (.unusableEncoding name reason)
      | none =>
        if codec = "punycode" then Insertion.read bs
        else
          match Encoding.ofCodec? codec with
          | some e => .ok (e.read bs)
          | none => .error (.notTextEncoding name)

/-- The text of a page, in the encoding that it declares. -/
def readDeclared (bs : List UInt8) : Except Fault (List Char) :=
  (detect bs).1 >>= fun name => readAs name bs

/-- Why bytes are no text, where a byte that is none of it begins them. -/
def reasonAt (first : UInt8) (rest : List UInt8) : String :=
  match leadBounds? first.toNat with
  | none => "invalid start byte"
  | some (low, high, n) =>
    if tailSize low high n rest = rest.length then "unexpected end of data"
    else "invalid continuation byte"

/-- The text of bytes that begin at a position, or the fault at the first byte that is none of it.
`fuel` bounds the number of characters. -/
def readStrictlyFrom (fuel position : Nat) (bs : List UInt8) : Except Fault (List Char) :=
  match fuel, bs with
  | 0, _ | _, [] => .ok []
  | fuel + 1, first :: rest =>
    let p := utf8Piece first rest
    match p.char? with
    | none => .error (.undecodable first position (position + p.size) (reasonAt first rest))
    | some c => do
      let cs ← readStrictlyFrom fuel (position + p.size) (rest.drop (p.size - 1))
      return c :: cs

/-- The text of a file, or the fault at the first byte that is none of it. -/
def readStrictly (bs : List UInt8) : Except Fault (List Char) :=
  readStrictlyFrom bs.length 0 bs

end Extraction.Charset
