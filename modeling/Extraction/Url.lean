import Extraction.Fault
import Extraction.Text.Case
import Extraction.Text.Search

/-!
# Addresses

An address has a scheme, a host, a path with parameters, a query and a fragment, any of which may
be missing. A relative address is resolved against a base: what it does not say is taken from the
base, and steps up and down in its path are carried out.

## Main definitions

* `Url` : the parts of an address.
* `Url.read` : the parts of a text, where a scheme may be given that holds if the text has none.
* `Url.write` : an address as a text.
* `Url.resolveSegments` : a path with the steps in it carried out.
* `Url.join` : an address resolved against a base.
-/

namespace Extraction

open Text

/-- The parts of an address. -/
structure Url where
  /-- The scheme, in small letters. -/
  scheme : List Char := []
  /-- The host, with a user before it and a number after it if they are given. -/
  host : List Char := []
  /-- The path without its parameters. -/
  path : List Char := []
  /-- The parameters of the last part of the path. -/
  params : List Char := []
  /-- The query. -/
  query : List Char := []
  /-- The fragment. -/
  fragment : List Char := []
  deriving DecidableEq, Repr

namespace Url

/-- The schemes under which relative addresses are resolved. -/
def relativeSchemes : List String :=
  ["", "ftp", "http", "gopher", "nntp", "imap", "wais", "file", "https", "shttp", "mms",
    "prospero", "rtsp", "rtsps", "rtspu", "sftp", "svn", "svn+ssh", "ws", "wss"]

/-- The schemes whose addresses have a host. -/
def hostSchemes : List String :=
  ["", "ftp", "http", "gopher", "nntp", "telnet", "imap", "wais", "file", "mms", "https", "shttp",
    "snews", "prospero", "rtsp", "rtsps", "rtspu", "rsync", "svn", "svn+ssh", "sftp", "nfs", "git",
    "git+ssh", "ws", "wss"]

/-- The schemes whose paths have parameters. -/
def paramSchemes : List String :=
  ["", "ftp", "hdl", "prospero", "http", "imap", "https", "shttp", "rtsp", "rtsps", "rtspu", "sip",
    "sips", "mms", "sftp", "tel"]

/-- Whether a scheme is one of several. -/
def isAmong (schemes : List String) (scheme : List Char) : Bool :=
  schemes.contains (String.ofList scheme)

/-- Whether a character is a letter of ASCII. -/
def isLetter (c : Char) : Bool :=
  ('a' ≤ c && c ≤ 'z') || ('A' ≤ c && c ≤ 'Z')

/-- Whether a character may stand in a scheme. -/
def isSchemeChar (c : Char) : Bool :=
  isLetter c || ('0' ≤ c && c ≤ '9') || c = '+' || c = '-' || c = '.'

/-- The scheme at the start of a text, and what follows its colon. -/
def readScheme? (s : List Char) : Option (List Char × List Char) :=
  match s.dropWhile isSchemeChar with
  | ':' :: rest =>
    if s.head?.any isLetter then some ((s.takeWhile isSchemeChar).map asciiLower, rest) else none
  | _ => none

/-- Whether a character ends a host. -/
def endsHost (c : Char) : Bool :=
  c = '/' || c = '?' || c = '#'

/-- Whether a character becomes a sign of addresses under normalization. -/
def isUnstable (c : Char) : Bool :=
  [0x2047, 0x2048, 0x2049, 0x2100, 0x2101, 0x2105, 0x2106, 0x2A74, 0xFE13, 0xFE16, 0xFE55, 0xFE56,
    0xFE5F, 0xFE6B, 0xFF03, 0xFF0F, 0xFF1A, 0xFF1F, 0xFF20].contains c.toNat

/-- Whether a text is one of four numbers below 256 in a numeric host. -/
def isOctet (s : List Char) : Bool :=
  !s.isEmpty && s.length ≤ 3 && s.all isAsciiDigit &&
    s.foldl (fun n c => 10 * n + (c.toNat - '0'.toNat)) 0 ≤ 255 &&
    !(s.length > 1 && s.head? == some '0')
where
  /-- Whether a character is a digit of ASCII. -/
  isAsciiDigit (c : Char) : Bool := '0' ≤ c && c ≤ '9'

/-- Whether a text is a numeric host of four numbers. -/
def isOldNumeric (s : List Char) : Bool :=
  let parts := splitOn ['.'] s
  parts.length == 4 && parts.all isOctet

/-- Whether a text is one of eight groups of a numeric host. -/
def isGroup (s : List Char) : Bool :=
  !s.isEmpty && s.length ≤ 4 &&
    s.all fun c => ('0' ≤ c && c ≤ '9') || ('a' ≤ c && c ≤ 'f') || ('A' ≤ c && c ≤ 'F')

/-- Whether a text is a numeric host of eight groups, of which a run of zeros may be left out, and
of which the last two may be written as four numbers. A zone may follow a percent sign. -/
def isNumeric (s : List Char) : Bool :=
  let zone := s.dropWhile (· ≠ '%')
  let body := s.takeWhile (· ≠ '%')
  let parts := splitOn [':'] body
  let parts :=
    match parts.getLast? with
    | some last => if isOldNumeric last then parts.dropLast ++ [['0'], ['0']] else parts
    | none => parts
  let inner := parts.drop 1 |>.dropLast
  let gaps := (inner.filter List.isEmpty).length
  let zoneHolds := zone.isEmpty || (zone.length > 1 && !(zone.drop 1).contains '%')
  zoneHolds && 3 ≤ parts.length && parts.length ≤ 9 && gaps ≤ 1 &&
    (parts.all fun p => p.isEmpty || isGroup p) &&
    (if gaps = 1 then
      let startsEmpty := parts.head?.any List.isEmpty
      let endsEmpty := parts.getLast?.any List.isEmpty
      (!startsEmpty || (inner.head?.any List.isEmpty)) &&
        (!endsEmpty || (inner.getLast?.any List.isEmpty)) &&
        (parts.filter fun p => !p.isEmpty).length ≤ 7
    else parts.length == 8 && parts.all fun p => !p.isEmpty)

/-- Whether a text is a numeric host of a later kind: a letter, a version, a point and a text. -/
def isLaterNumeric (s : List Char) : Bool :=
  let version := (s.drop 1).takeWhile fun c =>
    ('0' ≤ c && c ≤ '9') || ('a' ≤ c && c ≤ 'f') || ('A' ≤ c && c ≤ 'F')
  match (s.drop 1).drop version.length with
  | '.' :: rest => !version.isEmpty && !rest.isEmpty && !rest.contains '\n'
  | _ => false

/-- Whether a host is well formed. -/
def checkHost (host : List Char) : Except Fault Unit := do
  let opens := host.contains '['
  let closes := host.contains ']'
  if opens != closes then throw .badHost
  if opens then
    let inner := ((host.dropWhile (· ≠ '[')).drop 1).takeWhile (· ≠ ']')
    if inner.head? = some 'v' then
      if !isLaterNumeric inner then throw .laterNumericHost
    else if isOldNumeric inner then throw .oldNumericHost
    else if !isNumeric inner then throw (.badNumericHost (String.ofList inner))
  if host.any isUnstable then throw (.unstableHost (String.ofList host))

/-- The parameters of the last part of a path. -/
def splitParams (path : List Char) : List Char × List Char :=
  let tail := (path.reverse.takeWhile (· ≠ '/')).reverse
  let head := path.take (path.length - tail.length)
  (head ++ tail.takeWhile (· ≠ ';'), (tail.dropWhile (· ≠ ';')).drop 1)

/-- A text without the control characters and spaces at its start, and without the line breaks and
tabs in it. -/
def cleaned (s : List Char) : List Char :=
  (s.dropWhile fun c => c.toNat ≤ 0x20).filter fun c => c ≠ '\t' && c ≠ '\r' && c ≠ '\n'

/-- The parts of a text; the scheme is the given one if the text has none. -/
def read (scheme : List Char) (s : List Char) : Except Fault Url := do
  let s := cleaned s
  let (scheme, rest) := (readScheme? s).getD (scheme, s)
  let (host, rest) :=
    match rest with
    | '/' :: '/' :: after =>
      (after.takeWhile fun c => !endsHost c, after.dropWhile fun c => !endsHost c)
    | _ => ([], rest)
  checkHost host
  let fragment := (rest.dropWhile (· ≠ '#')).drop 1
  let rest := rest.takeWhile (· ≠ '#')
  let query := (rest.dropWhile (· ≠ '?')).drop 1
  let whole := rest.takeWhile (· ≠ '?')
  let (path, params) := if isAmong paramSchemes scheme then splitParams whole else (whole, [])
  return { scheme, host, path, params, query, fragment }

/-- An address as a text. -/
def write (u : Url) : List Char :=
  let path := if u.params.isEmpty then u.path else u.path ++ ';' :: u.params
  let hasHost := !u.host.isEmpty || (!u.scheme.isEmpty && isAmong hostSchemes u.scheme) ||
    startsWith path ['/', '/']
  let located :=
    if hasHost then
      '/' :: '/' :: u.host ++
        (if !path.isEmpty && path.head? ≠ some '/' then '/' :: path else path)
    else path
  (if u.scheme.isEmpty then located else u.scheme ++ ':' :: located) ++
    (if u.query.isEmpty then [] else '?' :: u.query) ++
    (if u.fragment.isEmpty then [] else '#' :: u.fragment)

/-- The parts of a path after the steps in it are carried out: `done` holds those before, the last
one first. -/
def resolveFrom (done : List (List Char)) : List (List Char) → List (List Char)
  | [] => done.reverse
  | part :: rest =>
    if part = ['.', '.'] then resolveFrom (done.drop 1) rest
    else if part = ['.'] then resolveFrom done rest
    else resolveFrom (part :: done) rest

/-- The parts of a path with the steps in it carried out: a step at its end leaves a slash. -/
def resolveSegments (parts : List (List Char)) : List (List Char) :=
  let resolved := resolveFrom [] parts
  match parts.getLast? with
  | some last => if last = ['.'] || last = ['.', '.'] then resolved ++ [[]] else resolved
  | none => resolved

/-- The parts of a relative path after those of the base; between the first and the last one, empty
parts are left out. -/
def segments (base path : List Char) : List (List Char) :=
  if path.head? = some '/' then splitOn ['/'] path
  else
    let baseParts := splitOn ['/'] base
    let kept := if baseParts.getLast? = some [] then baseParts else baseParts.dropLast
    let parts := kept ++ splitOn ['/'] path
    parts.take 1 ++ (parts.drop 1).dropLast.filter (fun p => !p.isEmpty) ++
      (parts.drop 1).getLast?.toList

/-- An address resolved against a base whose parts are given. -/
def resolve (base u : Url) : Url :=
  let host := if isAmong hostSchemes u.scheme then base.host else u.host
  if u.path.isEmpty && u.params.isEmpty then
    { u with
      host, path := base.path, params := base.params
      query := if u.query.isEmpty then base.query else u.query }
  else
    let path := joinWith ['/'] (resolveSegments (segments base.path u.path))
    { u with host, path := if path.isEmpty then ['/'] else path }

/-- An address resolved against a base. -/
def join (base s : List Char) : Except Fault (List Char) :=
  if base.isEmpty then .ok s
  else if s.isEmpty then .ok base
  else do
    let b ← read [] base
    let u ← read b.scheme s
    if u.scheme ≠ b.scheme || !isAmong relativeSchemes u.scheme then return s
    else if isAmong hostSchemes u.scheme && !u.host.isEmpty then return u.write
    else return (resolve b u).write

end Url

end Extraction
