import Extraction.Text.Quoted
import Extraction.Text.Search

/-!
# Paths of files

A path has names between slashes. Empty names and single dots do not count. What cannot be read or
written has a trouble, which cites the path.

## Main definitions

* `Path` : the paths, with `Path.ofText`, `Path.text`, `Path.name` and `Path.ending`.
* `Path.Trouble` : why a file cannot be read or written.
* `Folder` : the files of a folder, with `Folder.read` and `Folder.write`.
-/

namespace Extraction

/-- A path. -/
structure Path where
  /-- The slashes at the start. -/
  root : String
  /-- The names. -/
  names : List String
  deriving DecidableEq, Repr

namespace Path

/-- The path that a text writes. Exactly two slashes at the start stay two. -/
def ofText (s : String) : Path :=
  let slashes := (s.toList.takeWhile (· = '/')).length
  let root := if slashes = 0 then "" else if slashes = 2 then "//" else "/"
  let names := (Text.splitOn ['/'] s.toList).map String.ofList
  ⟨root, names.filter fun name => name ≠ "" && name ≠ "."⟩

/-- A path as a text. -/
def text (p : Path) : String :=
  if p.root = "" && p.names.isEmpty then "." else p.root ++ "/".intercalate p.names

/-- The last name, or nothing if there is none. -/
def name (p : Path) : String :=
  p.names.getLastD ""

/-- The last name from its last dot on, unless the dot is the first or the last character. -/
def ending (p : Path) : String :=
  let reversed := p.name.toList.reverse
  let after := reversed.takeWhile (· ≠ '.')
  match reversed.drop after.length with
  | '.' :: _ :: _ => if after.isEmpty then "" else String.ofList ('.' :: after.reverse)
  | _ => ""

/-- Why a file cannot be read or written. -/
inductive TroubleKind where
  /-- There is none. -/
  | missing
  /-- It is a folder. -/
  | isFolder
  /-- It would lie in something that is no folder. -/
  | notInFolder
  /-- Its name is too long. -/
  | nameTooLong
  /-- Access is denied. -/
  | denied
  deriving DecidableEq, Repr

/-- A path that cannot be read or written. -/
structure Trouble where
  /-- Why. -/
  kind : TroubleKind
  /-- The path. -/
  path : Path
  deriving DecidableEq, Repr

namespace Trouble

/-- The number of a kind of trouble and its wording. -/
def reason : TroubleKind → Nat × String
  | .missing => (2, "No such file or directory")
  | .isFolder => (21, "Is a directory")
  | .notInFolder => (20, "Not a directory")
  | .nameTooLong => (36, "File name too long")
  | .denied => (13, "Permission denied")

/-- The wording of a trouble. -/
def message (t : Trouble) : String :=
  let (number, wording) := reason t.kind
  "[Errno " ++ toString number ++ "] " ++ wording ++ ": " ++ Text.quoted t.path.text

end Trouble

end Path

/-- The files of a folder that has no other folders in it, by their names. -/
abbrev Folder := List (String × List UInt8)

namespace Folder

/-- The greatest number of bytes of a name. -/
def maxName : Nat := 255

/-- The name of the file that a path from a folder leads to, or why it leads to none. Nothing is
known about other folders. -/
def locate (f : Folder) (p : Path) : Except Path.Trouble String :=
  match p.names with
  | [] => .error ⟨.isFolder, p⟩
  | [name] =>
    if p.root ≠ "" then .error ⟨.missing, p⟩
    else if name = ".." then .error ⟨.isFolder, p⟩
    else if name.utf8ByteSize > maxName then .error ⟨.nameTooLong, p⟩
    else .ok name
  | first :: rest =>
    if p.root = "" && (f.lookup first).isSome then .error ⟨.notInFolder, p⟩
    else if first :: rest = List.replicate (rest.length + 1) ".." then .error ⟨.isFolder, p⟩
    else if first.utf8ByteSize > maxName then .error ⟨.nameTooLong, p⟩
    else .error ⟨.missing, p⟩

/-- The bytes of a file. -/
def read (f : Folder) (p : Path) : Except Path.Trouble (List UInt8) := do
  match f.lookup (← f.locate p) with
  | some bytes => return bytes
  | none => throw ⟨.missing, p⟩

/-- A folder with the bytes of a file in the place of those of its name, or at the end. -/
def put : Folder → String → List UInt8 → Folder
  | [], name, bytes => [(name, bytes)]
  | (other, old) :: rest, name, bytes =>
    if other = name then (name, bytes) :: rest else (other, old) :: put rest name bytes

/-- A folder in which a file has been written. -/
def write (f : Folder) (p : Path) (bytes : List UInt8) : Except Path.Trouble Folder := do
  return f.put (← f.locate p) bytes

end Folder

end Extraction
