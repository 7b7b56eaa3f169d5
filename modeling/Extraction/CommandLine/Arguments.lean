import Extraction.Text.Word

/-!
# Arguments of the command line

The command line gives a rule, one file or more, and switches. A switch may be cut short as long as
it stays clear which one is meant; its value follows it, or is attached to it by an equals sign, or
directly to a switch of one letter. Switches of one letter that take no value may be run together.
After two hyphens that stand alone nothing is a switch. What starts with a hyphen but is no switch
is only allowed if it has a space in it or is a number.

The rule and the files are taken from the words between the switches: as many as there are up to
the next switch. Words that are left over are not allowed.

## Main definitions

* `CommandLine.Arguments` : what a command line says.
* `CommandLine.Stop` : why it says nothing.
* `CommandLine.Arguments.read` : what a list of words says.
-/

namespace Extraction.CommandLine

/-- What a command line says. -/
structure Arguments where
  /-- The rule, or the path of a file with it. -/
  rule : String
  /-- The paths of the pages. -/
  files : List String
  /-- The address against which links are resolved. -/
  base : Option String := none
  /-- The name of the tree builder. -/
  builder : Option String := none
  /-- The path of the file that results are written to. -/
  output : Option String := none
  /-- Whether the log lets everything through. -/
  verbose : Bool := false
  deriving DecidableEq, Repr

/-- Why a command line says nothing. -/
inductive Stop where
  /-- It asks for help. -/
  | help
  /-- It is not as it should be. -/
  | refused
  deriving DecidableEq, Repr

/-- The switches. -/
inductive Switch where
  | help
  | base
  | builder
  | output
  | verbose
  deriving DecidableEq, Repr

namespace Switch

/-- The switches by their names. -/
def named : List (String × Switch) :=
  [("-h", .help), ("--help", .help), ("--base-url", .base), ("-b", .base), ("--parser", .builder),
    ("-p", .builder), ("--output", .output), ("-o", .output), ("--verbose", .verbose),
    ("-v", .verbose)]

/-- The switch of a name. -/
def ofName? (name : String) : Option Switch :=
  named.lookup name

/-- Whether a switch takes a value. -/
def takesValue : Switch → Bool
  | .base | .builder | .output => true
  | .help | .verbose => false

end Switch

/-- How a value is attached to a switch. -/
inductive Attachment where
  /-- None is. -/
  | none
  /-- It follows an equals sign. -/
  | bySign (value : List Char)
  /-- It follows the letter of the switch, or more switches do. -/
  | direct (rest : List Char)
  deriving DecidableEq, Repr

/-- A word that is a switch: which one, if there is one of the name, and what is attached to it. -/
structure Use where
  /-- The switch. -/
  switch? : Option Switch
  /-- What is attached to it. -/
  attached : Attachment := .none
  deriving DecidableEq, Repr

/-- What a word is. -/
inductive Word where
  /-- A word that is no switch. -/
  | plain (text : String)
  /-- The two hyphens after which nothing is a switch. -/
  | separator
  /-- A switch. -/
  | switch (u : Use)
  deriving DecidableEq, Repr

namespace Word

/-- A text before its first equals sign, and what follows the sign. -/
def splitAtSign (s : List Char) : List Char × Attachment :=
  let name := s.takeWhile (· ≠ '=')
  match s.drop name.length with
  | [] => (name, .none)
  | _ :: value => (name, .bySign value)

/-- The switches that a word with two hyphens in front may mean, being cut short. -/
def longUses (s : List Char) : List Use :=
  let (name, attached) := splitAtSign s
  (Switch.named.filter fun e => e.1.toList.take name.length = name).map fun e =>
    { switch? := some e.2, attached }

/-- The switches that a word with one hyphen in front may mean: the one of its first letter, to
which the rest is attached. -/
def shortUses (s : List Char) : List Use :=
  match Switch.ofName? (String.ofList (s.take 2)) with
  | some meant => [{ switch? := some meant, attached := .direct (s.drop 2) }]
  | none => []

/-- Whether a word that starts with a hyphen is a number. -/
def isNegative (s : List Char) : Bool :=
  let body := match s.drop 1 with
    | rest => if rest.getLast? = some '\n' then rest.dropLast else rest
  let whole := body.takeWhile Text.isDigit
  match body.drop whole.length with
  | [] => !whole.isEmpty
  | '.' :: digits => !digits.isEmpty && digits.all Text.isDigit
  | _ => false

/-- What a word is that starts with a hyphen and is longer than it. -/
def ofHyphened (s : List Char) : Except Stop Word :=
  let text := String.ofList s
  let (name, attached) := splitAtSign s
  match Switch.ofName? (String.ofList name) with
  | some meant => .ok (.switch { switch? := some meant, attached })
  | none =>
    match if s.take 2 = ['-', '-'] then longUses s else shortUses s with
    | [u] => .ok (.switch u)
    | _ :: _ => .error .refused
    | [] =>
      if isNegative s || s.contains ' ' then .ok (.plain text)
      else .ok (.switch { switch? := none })

/-- What the words of a command line are. -/
def ofTexts : List String → Except Stop (List Word)
  | [] => .ok []
  | text :: rest =>
    if text = "--" then .ok (.separator :: rest.map .plain)
    else do
      let word ← match text.toList with
        | '-' :: c :: cs => ofHyphened ('-' :: c :: cs)
        | _ => .ok (.plain text)
      let words ← ofTexts rest
      return word :: words

/-- The text of a word. -/
def text : Word → String
  | .plain text => text
  | .separator => "--"
  | .switch _ => ""

/-- Whether a word is a switch. -/
def isSwitch : Word → Bool
  | .switch _ => true
  | _ => false

/-- Whether a word is a separator. -/
def isSeparator : Word → Bool
  | .separator => true
  | _ => false

end Word

/-- What has been read of a command line. -/
structure Progress where
  /-- The rule. -/
  rule : Option String := none
  /-- The files. -/
  files : Option (List String) := none
  /-- The address against which links are resolved. -/
  base : Option String := none
  /-- The name of the tree builder. -/
  builder : Option String := none
  /-- The path of the file that results are written to. -/
  output : Option String := none
  /-- Whether the log lets everything through. -/
  verbose : Bool := false
  /-- Whether there are words that are not allowed. -/
  leftOver : Bool := false
  deriving Repr

namespace Progress

/-- The words up to the next switch, and what follows them. -/
def plainWords (words : List Word) : List Word × List Word :=
  (words.takeWhile fun w => !w.isSwitch, words.dropWhile fun w => !w.isSwitch)

/-- The rule at the start of words that are no switches, with the separators around it. -/
def takeRule? (words : List Word) : Option (String × List Word) :=
  let lead := words.takeWhile Word.isSeparator
  match words.drop lead.length with
  | [] => none
  | first :: rest =>
    let tail := rest.takeWhile Word.isSeparator
    let texts := ((lead ++ first :: tail).map Word.text).erase "--"
    some (texts.headD "", rest.drop tail.length)

/-- The files that words without switches name, if there is one at least. -/
def takeFiles? (words : List Word) : Option (List String) :=
  if words.all Word.isSeparator then none else some ((words.map Word.text).erase "--")

/-- Words that are no switches are read: the rule, if it is missing, and then the files. Words that
are not needed are left over. -/
def readPlain (p : Progress) (words : List Word) : Progress :=
  let (p, words) := match p.rule with
    | some _ => (p, words)
    | none =>
      match takeRule? words with
      | some (rule, rest) => ({ p with rule := some rule }, rest)
      | none => (p, words)
  match p.rule, p.files, takeFiles? words with
  | some _, none, some files => { p with files := some files }
  | _, _, _ => { p with leftOver := p.leftOver || !words.isEmpty }

/-- The effect of a switch without a value. -/
def setFlag (p : Progress) : Switch → Except Stop Progress
  | .help => .error .help
  | _ => .ok { p with verbose := true }

/-- The effect of a switch with a value. -/
def setValue (p : Progress) (s : Switch) (value : String) : Progress :=
  match s with
  | .base => { p with base := some value }
  | .builder => { p with builder := some value }
  | .output => { p with output := some value }
  | .help | .verbose => p

/-- What one word says about switches. -/
structure Chain where
  /-- The switches without a value. -/
  flags : List Switch := []
  /-- The switch with a value, and the value if it is in the word. -/
  last : Option (Switch × Option (List Char)) := none
  /-- Whether there is a letter in the word that is no switch. -/
  unknown : Bool := false
  deriving Repr

/-- What switches of one letter say that are run together: a switch, and the letters after it. -/
def runTogether (s : Switch) : List Char → Except Stop Chain
  | [] => .ok (if s.takesValue then { last := some (s, none) } else { flags := [s] })
  | c :: rest =>
    if s.takesValue then
      .ok { last := some (s, some (if c = '=' then rest else c :: rest)) }
    else if c = '=' || c = '-' then .error .refused
    else
      match Switch.ofName? (String.ofList ['-', c]) with
      | none => .ok { flags := [s], unknown := true }
      | some next => do
        let chain ← runTogether next rest
        return { chain with flags := s :: chain.flags }

/-- What a word says that names a switch. -/
def chainOf (s : Switch) : Attachment → Except Stop Chain
  | .none => runTogether s []
  | .bySign value =>
    if s.takesValue then .ok { last := some (s, some value) } else .error .refused
  | .direct rest => runTogether s rest

/-- The effect of a word that is a switch, and the words that are left after it. -/
def readSwitch (p : Progress) (u : Use) (rest : List Word) :
    Except Stop (Progress × List Word) := do
  match u.switch? with
  | none => return ({ p with leftOver := true }, rest)
  | some s =>
    let chain ← chainOf s u.attached
    let p := { p with leftOver := p.leftOver || chain.unknown }
    match chain.last, rest with
    | none, _ => return (← chain.flags.foldlM setFlag p, rest)
    | some (s, some value), _ =>
      return ((← chain.flags.foldlM setFlag p).setValue s (String.ofList value), rest)
    | some (s, none), .plain value :: rest =>
      return ((← chain.flags.foldlM setFlag p).setValue s value, rest)
    | some (_, none), _ => .error .refused

/-- The words of a command line are read. `fuel` bounds the number of switches. -/
def readWords : Nat → Progress → List Word → Except Stop Progress
  | 0, p, _ => .ok p
  | fuel + 1, p, words =>
    let (before, after) := plainWords words
    let p := if before.isEmpty then p else p.readPlain before
    match after with
    | .switch u :: rest => do
      let (p, rest) ← p.readSwitch u rest
      readWords fuel p rest
    | _ => .ok p

/-- What a command line says that has been read to its end. -/
def finish (p : Progress) : Except Stop Arguments :=
  match p.rule, p.files, p.leftOver with
  | some rule, some files, false =>
    .ok { rule, files, base := p.base, builder := p.builder, output := p.output,
          verbose := p.verbose }
  | _, _, _ => .error .refused

end Progress

/-- What a list of words says. -/
def Arguments.read (texts : List String) : Except Stop Arguments := do
  let words ← Word.ofTexts texts
  let p ← Progress.readWords (words.length + 1) {} words
  p.finish

end Extraction.CommandLine
