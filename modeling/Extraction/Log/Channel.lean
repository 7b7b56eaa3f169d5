import Extraction.Log.Level
import Extraction.Text.Search

/-!
# Channels of a log

Notices go to channels. A channel has a name, a level and outlets; its outlets are put up once, and
setting it up again changes only levels. Names have parts between dots, and a channel without a
level of its own has that of the nearest one above it.

## Main definitions

* `Log.Channel` : a channel, with `Log.Channel.setUp`.
* `Log.Channels` : all channels that have been set up, with `Log.Channels.setUp`.
* `Log.Channels.effectiveLevel` : the level that a channel of a name has.
-/

namespace Extraction.Log

/-- What an outlet writes to. -/
inductive Target where
  | console
  | file (name : String)
  deriving DecidableEq, Repr

/-- An outlet of a channel. -/
structure Outlet where
  /-- What it writes to. -/
  target : Target
  /-- The level of what it writes. -/
  level : Level
  deriving DecidableEq, Repr

/-- A channel of the log. -/
structure Channel where
  /-- Its name. -/
  name : String
  /-- The level of what it lets through; at rank zero it has none of its own. -/
  level : Level := .number 0
  /-- Its outlets. -/
  outlets : List Outlet := []
  deriving DecidableEq, Repr

/-- The form of the lines that outlets write. -/
def lineForm : String := "%(asctime)s - %(name)s - %(levelname)s - %(message)s"

/-- The name of the channel of the library. -/
def libraryName : String := "html_query"

/-- The name of the channel of a part of the library. -/
def partName (part : String) : String :=
  libraryName ++ "." ++ part

namespace Channel

/-- What the outlets of a channel that has none yet are to write to. -/
def targets (file : Option String) : List Target :=
  match file with
  | some name => if name.isEmpty then [.console] else [.console, .file name]
  | none => [.console]

/-- A channel that is set up at a level. It gets outlets only if it has none. -/
def setUp (c : Channel) (level : Level) (file : Option String) : Channel :=
  let outlets := match c.outlets with
    | [] => (targets file).map fun target => ⟨target, level⟩
    | present => present.map fun o => { o with level }
  { c with level, outlets }

end Channel

/-- The channels that have been set up. -/
structure Channels where
  /-- The channels, in the order in which they were set up first. -/
  all : List Channel := []
  /-- No two of them have one name. -/
  distinct : (all.map Channel.name).Nodup := by exact List.nodup_nil
  deriving Repr

namespace Channels

/-- The channel of a name; one that has not been set up has neither level nor outlets. -/
def channel (cs : Channels) (name : String) : Channel :=
  (cs.all.find? fun c => c.name == name).getD { name }

/-- Channels with one put in the place of the one of its name, or at the end. -/
def insert : List Channel → Channel → List Channel
  | [], c => [c]
  | d :: rest, c => if d.name = c.name then c :: rest else d :: insert rest c

/-- A new name goes to the end, and with any other one the names stay as they are. -/
theorem map_name_insert (cs : List Channel) (c : Channel) :
    (insert cs c).map Channel.name =
      if c.name ∈ cs.map Channel.name then cs.map Channel.name
      else cs.map Channel.name ++ [c.name] := by
  induction cs with
  | nil => rfl
  | cons d cs ih =>
    by_cases h : d.name = c.name
    · simp [insert, h]
    · simp only [insert, if_neg h, List.map_cons, ih, List.mem_cons, Ne.symm h, false_or]
      split <;> rfl

/-- The channels with one put in the place of the one of its name, or at the end. -/
def put (cs : Channels) (c : Channel) : Channels where
  all := insert cs.all c
  distinct := by
    rw [map_name_insert]
    split
    · exact cs.distinct
    · exact List.nodup_append.2 ⟨cs.distinct, by simp, by grind⟩

/-- A channel is set up at the level that a value stands for. Nothing changes if it stands for
none. -/
def setUp (cs : Channels) (name : String) (level : Value) (file : Option String) :
    Except Fault Channel × Channels :=
  match Level.resolve level with
  | .error f => (.error f, cs)
  | .ok level =>
    let c := (cs.channel name).setUp level file
    (.ok c, cs.put c)

/-- The channels at the start: that of the library, at the usual level. -/
def initial : Channels :=
  ({} : Channels).put (({ name := libraryName } : Channel).setUp .usual none)

/-- The names of a channel and those above it, the nearest first. The name is in reverse. -/
def namesAbove : List Char → List (List Char)
  | [] => []
  | '.' :: rest => rest :: namesAbove rest
  | _ :: rest => namesAbove rest

/-- The level of a channel: its own one, or that of the nearest channel above it that has one. -/
def effectiveLevel (cs : Channels) (name : String) : Level :=
  let reversed := name.toList.reverse
  let names := (reversed :: namesAbove reversed).map fun s => String.ofList s.reverse
  let levels := names.map fun n => (cs.channel n).level
  (levels.find? fun level => level.rank ≠ 0).getD .lastResort

end Channels

end Extraction.Log
