import Extraction.Charset.Japanese
import Extraction.Charset.Korean
import Extraction.Charset.Label
import Extraction.Charset.Simplified
import Extraction.Charset.SingleByte
import Extraction.Charset.Traditional

/-!
# Reading bytes as text

An encoding tells how bytes write characters. What stands at the start of some bytes is either a
character or something that cannot be read; both have a size. Reading either refuses bytes with
anything unreadable or puts a replacement character in its place.

## Main definitions

* `Charset.Encoding` : the encodings.
* `Charset.Encoding.ofCodec?` : the encoding of a name, if it is one of texts.
* `Charset.Encoding.pieces` : what stands in bytes.
* `Charset.Encoding.read`, `Charset.Encoding.read?` : bytes as text.
-/

namespace Extraction.Charset

/-- In which order the bytes of a number stand. -/
inductive ByteOrder where
  | little
  | big
  deriving DecidableEq, Repr

/-- An encoding of texts. -/
inductive Encoding where
  /-- One to four bytes for a character. -/
  | utf8
  /-- The same, with a mark at the start that is no character. -/
  | markedUtf8
  /-- Two or four bytes for a character; the order may be told by a mark at the start. -/
  | utf16 (order : Option ByteOrder)
  /-- Four bytes for a character; the order may be told by a mark at the start. -/
  | utf32 (order : Option ByteOrder)
  /-- One byte for a character, whose code point it is. -/
  | latin
  /-- One byte for a character of ASCII. -/
  | ascii
  /-- One byte for a character, by a table. -/
  | table (characters : String)
  /-- ASCII, and one or two bytes for other characters. -/
  | doubleByte (single : Nat → Option Char) (double : Nat → Nat → Option Char)
  /-- ASCII, and two or four bytes for other characters. -/
  | mainland

/-- What stands at the start of bytes: a character, or something unreadable, and its size. -/
structure Piece where
  /-- The character. -/
  char? : Option Char
  /-- The number of bytes. -/
  size : Nat
  deriving Repr

namespace Piece

/-- A character of a code point; nothing if there is none. -/
def ofCode (code size : Nat) : Piece :=
  if code < 0xD800 ∨ (0xDFFF < code ∧ code ≤ 0x10FFFF) then ⟨some (Char.ofNat code), size⟩
  else ⟨none, size⟩

/-- Something unreadable. -/
def bad (size : Nat) : Piece :=
  ⟨none, size⟩

end Piece

/-- The bounds of the second byte of a character, for its first byte, and how many bytes follow the
first one. -/
def leadBounds? (lead : Nat) : Option (Nat × Nat × Nat) :=
  if 0xC2 ≤ lead ∧ lead ≤ 0xDF then some (0x80, 0xBF, 1)
  else if lead = 0xE0 then some (0xA0, 0xBF, 2)
  else if lead = 0xED then some (0x80, 0x9F, 2)
  else if 0xE1 ≤ lead ∧ lead ≤ 0xEF then some (0x80, 0xBF, 2)
  else if lead = 0xF0 then some (0x90, 0xBF, 3)
  else if lead = 0xF4 then some (0x80, 0x8F, 3)
  else if 0xF1 ≤ lead ∧ lead ≤ 0xF3 then some (0x80, 0xBF, 3)
  else none

/-- How many of some bytes are those that follow a first byte: at most `n`, of which the first one
lies between bounds. -/
def tailSize (low high : Nat) : Nat → List UInt8 → Nat
  | 0, _ => 0
  | _, [] => 0
  | n + 1, b :: rest =>
    if low ≤ b.toNat && b.toNat ≤ high then 1 + tailSize 0x80 0xBF n rest else 0

/-- The code point of a first byte and the bytes that follow it. -/
def codeOf (lead : Nat) (tail : List UInt8) : Nat :=
  let start := match tail.length with
    | 1 => lead - 0xC0
    | 2 => lead - 0xE0
    | _ => lead - 0xF0
  tail.foldl (fun n b => 64 * n + (b.toNat - 0x80)) start

/-- What stands at the start of bytes of one to four for a character. -/
def utf8Piece (first : UInt8) (rest : List UInt8) : Piece :=
  let lead := first.toNat
  if lead < 0x80 then ⟨some (Char.ofNat lead), 1⟩
  else
    match leadBounds? lead with
    | none => .bad 1
    | some (low, high, n) =>
      let found := tailSize low high n rest
      if found = n then .ofCode (codeOf lead (rest.take n)) (n + 1) else .bad (found + 1)

/-- The number that bytes write. -/
def number (order : ByteOrder) (bs : List UInt8) : Nat :=
  match order with
  | .big => bs.foldl (fun n b => 256 * n + b.toNat) 0
  | .little => bs.foldr (fun b n => 256 * n + b.toNat) 0

/-- What stands at the start of bytes of two or four for a character. -/
def utf16Piece (order : ByteOrder) (bs : List UInt8) : Piece :=
  if bs.length < 2 then .bad bs.length
  else
    let unit := number order (bs.take 2)
    if 0xD800 ≤ unit ∧ unit ≤ 0xDBFF then
      if bs.length < 4 then .bad bs.length
      else
        let next := number order ((bs.drop 2).take 2)
        if 0xDC00 ≤ next ∧ next ≤ 0xDFFF then
          .ofCode (0x10000 + 1024 * (unit - 0xD800) + (next - 0xDC00)) 4
        else .bad 2
    else .ofCode unit 2

/-- What stands at the start of bytes of four for a character. -/
def utf32Piece (order : ByteOrder) (bs : List UInt8) : Piece :=
  if bs.length < 4 then .bad bs.length else .ofCode (number order (bs.take 4)) 4

/-- What stands at the start of bytes of the mainland encoding. -/
def mainlandPiece (first : UInt8) (rest : List UInt8) : Piece :=
  let a := first.toNat
  if a < 0x80 then ⟨some (Char.ofNat a), 1⟩
  else
    match rest with
    | [] => .bad 1
    | second :: more =>
      let b := second.toNat
      if 0x30 ≤ b ∧ b ≤ 0x39 then
        match more with
        | third :: fourth :: _ =>
          let c := third.toNat
          let e := fourth.toNat
          if a < 0x81 || a > 0xFE || c < 0x81 || c > 0xFE || e < 0x30 || e > 0x39 then .bad 1
          else
            match mainlandLong? a b c e with
            | some ch => ⟨some ch, 4⟩
            | none => .bad 1
        | _ => .bad (2 + more.length)
      else
        match mainlandThird? a b with
        | some c => ⟨some c, 2⟩
        | none => .bad 1

namespace Encoding

/-- What stands at the start of bytes. -/
def piece (e : Encoding) (first : UInt8) (rest : List UInt8) : Piece :=
  let byte := first.toNat
  match e with
  | .utf8 | .markedUtf8 => utf8Piece first rest
  | .utf16 order => utf16Piece (order.getD .little) (first :: rest)
  | .utf32 order => utf32Piece (order.getD .little) (first :: rest)
  | .latin => ⟨some (Char.ofNat byte), 1⟩
  | .ascii => if byte < 0x80 then ⟨some (Char.ofNat byte), 1⟩ else .bad 1
  | .table characters => ⟨singleByte? characters.toList byte, 1⟩
  | .doubleByte single double =>
    if byte < 0x80 then ⟨some (Char.ofNat byte), 1⟩
    else
      match single byte, rest with
      | some c, _ => ⟨some c, 1⟩
      | none, second :: _ =>
        match double byte second.toNat with
        | some c => ⟨some c, 2⟩
        | none => .bad 1
      | none, [] => .bad 1
  | .mainland => mainlandPiece first rest

/-- What stands in bytes after a mark at the start: characters, and nothing where there is none.
`fuel` bounds their number. -/
def piecesFrom (e : Encoding) : Nat → List UInt8 → List (Option Char)
  | 0, _ => []
  | _, [] => []
  | fuel + 1, first :: rest =>
    let p := e.piece first rest
    p.char? :: piecesFrom e fuel (rest.drop (p.size - 1))

/-- The order that a mark at the start of bytes tells, and what follows the mark. -/
def readOrder (size : Nat) (bs : List UInt8) : ByteOrder × List UInt8 :=
  let mark := bs.take size
  if mark.length = size && number .little mark = 0xFEFF then (.little, bs.drop size)
  else if mark.length = size && number .big mark = 0xFEFF then (.big, bs.drop size)
  else (.little, bs)

/-- What stands in bytes: characters, and nothing where there is none. -/
def pieces (e : Encoding) (bs : List UInt8) : List (Option Char) :=
  match e with
  | .markedUtf8 =>
    piecesFrom e bs.length (if bs.take 3 = [0xEF, 0xBB, 0xBF] then bs.drop 3 else bs)
  | .utf16 none =>
    let (order, rest) := readOrder 2 bs
    piecesFrom (.utf16 (some order)) rest.length rest
  | .utf32 none =>
    let (order, rest) := readOrder 4 bs
    piecesFrom (.utf32 (some order)) rest.length rest
  | _ => piecesFrom e bs.length bs

/-- Bytes as text, with a replacement character for everything unreadable. -/
def read (e : Encoding) (bs : List UInt8) : List Char :=
  (e.pieces bs).map fun p => p.getD missing

/-- Bytes as text, if all of them can be read. -/
def read? (e : Encoding) (bs : List UInt8) : Option (List Char) :=
  (e.pieces bs).mapM id

/-- An encoding of two bytes without characters of one byte in the upper half. -/
def double (pair : Nat → Nat → Option Char) : Encoding :=
  .doubleByte (fun _ => none) pair

/-- The names of encodings that are none of texts. -/
def otherCodecs : List String :=
  ["base64_codec", "bz2_codec", "hex_codec", "quopri_codec", "rot_13", "uu_codec", "zlib_codec"]

/-- The encoding of a name, if it is one of texts.

Rare encodings have a stand-in, which gives the right text as far as the two agree and another one
where they do not. The escapes of `unicode_escape` and `raw_unicode_escape` are not resolved, and
their bytes are read as Latin-1. The characters that `shift_jis_2004`, `shift_jisx0213`,
`euc_jis_2004`, `euc_jisx0213` and `big5hkscs` have over those of `shift_jis`, `euc_jp` and `big5`
are unreadable. The shifts of `utf_7`, `hz`, `iso2022_kr` and the `iso2022_jp` family and the
syllables of `johab` are read as ASCII. All of these are encodings of texts, and like their
stand-ins they put a replacement where something is unreadable and refuse no bytes. -/
def ofCodec? (codec : String) : Option Encoding :=
  match codec with
  | "utf_8" => some .utf8
  | "utf_8_sig" => some .markedUtf8
  | "utf_16" => some (.utf16 none)
  | "utf_16_le" => some (.utf16 (some .little))
  | "utf_16_be" => some (.utf16 (some .big))
  | "utf_32" => some (.utf32 none)
  | "utf_32_le" => some (.utf32 (some .little))
  | "utf_32_be" => some (.utf32 (some .big))
  | "latin_1" | "iso8859_1" | "charmap" | "raw_unicode_escape" | "unicode_escape" => some .latin
  | "shift_jis" | "shift_jis_2004" | "shift_jisx0213" =>
    some (.doubleByte japaneseNarrow? japanesePacked?)
  | "cp932" => some (.doubleByte vendorNarrow? japaneseVendor?)
  | "euc_jp" | "euc_jis_2004" | "euc_jisx0213" =>
    some (double fun a b =>
      if a = 0x8E then (if b ≤ 0xDF then japaneseNarrow? b else none) else japanesePlain? a b)
  | "gb2312" => some (double mainlandFirst?)
  | "gbk" => some (double mainlandSecond?)
  | "gb18030" => some .mainland
  | "big5" | "big5hkscs" => some (double island?)
  | "cp950" => some (double islandVendor?)
  | "euc_kr" => some (double koreanNarrow?)
  | "cp949" => some (double koreanWide?)
  | _ =>
    if otherCodecs.contains codec then none
    else
      match singleByteTables.lookup codec with
      | some characters => some (.table characters)
      | none => some .ascii

end Encoding

end Extraction.Charset
