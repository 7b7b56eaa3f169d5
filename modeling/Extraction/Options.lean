import Extraction.Log.Channel
import Extraction.Markup.Builder
import Extraction.Options.Field

/-!
# Options

Options say how documents are made, how many descriptors are kept and what the log lets through.
They are read from values by the names of their fields; every field is read, and all that refuse
their values are reported, in the order of the fields. Some fields may also be set in the
environment; values other than the empty one come before it.

## Main definitions

* `Options` : the options, with `Options.toEntries`.
* `Options.read` : the options that values give.
* `Options.fromEnvironment` : the options that an environment and values give.
-/

namespace Extraction

/-- How documents are made, how many descriptors are kept and what the log lets through. -/
structure Options where
  /-- The name of the tree builder. -/
  builder : String := Markup.Builder.usual
  /-- The address against which links are resolved. -/
  base : Option String := none
  /-- Whether links stay as they are written. -/
  keepsLinks : Bool := false
  /-- How many descriptors are kept. -/
  cacheSize : Nat := 1000
  /-- The level of the log; without one the log stays as it is. -/
  logLevel : Option Int := none
  deriving DecidableEq, Repr

namespace Options

/-- The options under the names of their fields. -/
def toEntries (o : Options) : Entries :=
  [(.text "parser", .text o.builder), (.text "base_url", (o.base.map Value.text).getD .null),
    (.text "keep_relative_urls", .bool o.keepsLinks), (.text "cache_size", .int o.cacheSize),
    (.text "log_level", (o.logLevel.map Value.int).getD .null)]

/-- A field that refuses its value. -/
structure Complaint where
  /-- The name of the field. -/
  field : String
  /-- Why it refuses. -/
  cause : Cause
  deriving DecidableEq, Repr

/-- The wording of a complaint. -/
def Complaint.message (c : Complaint) : String :=
  c.field ++ ":" ++ c.cause.code

/-- Why there are no options. -/
inductive Problem where
  /-- Fields refuse their values. -/
  | refused (complaints : List Complaint)
  /-- A text of the environment is not what it should be. -/
  | fault (f : Fault)
  deriving Repr

/-- The wording of a problem. -/
def Problem.message : Problem → String
  | .refused complaints => "; ".intercalate (complaints.map Complaint.message)
  | .fault f => f.message

/-- Values by the names of fields. Of two values of one name the first one counts. -/
abbrev Given := List (String × Value)

/-- What a field makes of its value; a field that is not given has a value of its own. -/
def field {α : Type} (given : Given) (name : String) (read : Value → Except Cause α) (usual : α) :
    Except Complaint α :=
  match given.lookup name with
  | none => .ok usual
  | some v =>
    match read v with
    | .ok a => .ok a
    | .error cause => .error ⟨name, cause⟩

/-- The complaint about a field, if there is one. -/
def complaints {α : Type} : Except Complaint α → List Complaint
  | .ok _ => []
  | .error c => [c]

/-- The options that values give. -/
def read (given : Given) : Except Problem Options :=
  let usual : Options := {}
  let builder := field given "parser" textField usual.builder
  let base := field given "base_url" (openField textField) usual.base
  let keepsLinks := field given "keep_relative_urls" truthField usual.keepsLinks
  let cacheSize := field given "cache_size" countField usual.cacheSize
  let logLevel := field given "log_level" (openField integerField) usual.logLevel
  match builder, base, keepsLinks, cacheSize, logLevel with
  | .ok builder, .ok base, .ok keepsLinks, .ok cacheSize, .ok logLevel =>
    .ok { builder, base, keepsLinks, cacheSize, logLevel }
  | _, _, _, _, _ =>
    .error (.refused (complaints builder ++ complaints base ++ complaints keepsLinks ++
      complaints cacheSize ++ complaints logLevel))

/-- The variables of an environment. -/
abbrev Environment := List (String × String)

/-- The text of a variable, unless it is empty. -/
def setting? (env : Environment) (name : String) : Option String :=
  (env.lookup ("HTML_QUERY_" ++ name)).filter fun s => !s.isEmpty

/-- The texts that switch something on. -/
def switchTexts : List String := ["1", "true", "yes"]

/-- The values that an environment gives. -/
def ofEnvironment (env : Environment) : Except Problem Given := do
  let builder := (setting? env "PARSER").map fun s => ("parser", .text s)
  let cacheSize ← match setting? env "CACHE_SIZE" with
    | none => .ok none
    | some s =>
      match Integer.read s with
      | .ok n => .ok (some ("cache_size", .int n))
      | .error f => .error (.fault f)
  let logLevel ← match setting? env "LOG_LEVEL" with
    | none => .ok none
    | some s =>
      match Log.Level.resolve (.text s) with
      | .ok level => .ok (some ("log_level", level.toValue))
      | .error f => .error (.fault f)
  let keepsLinks := (setting? env "KEEP_RELATIVE_URLS").map fun s =>
    ("keep_relative_urls", .bool (switchTexts.contains (Text.lowerString s)))
  return [builder, cacheSize, logLevel, keepsLinks].filterMap id

/-- The options that an environment and values give. A value other than the empty one comes before
the environment. -/
def fromEnvironment (env : Environment) (values : Given) : Except Problem Options := do
  let found ← ofEnvironment env
  let chosen := values.filter fun (_, v) => match v with | .null => false | _ => true
  read (chosen ++ found)

/-- The channels of the log once an extraction with these options has begun. -/
def channels (o : Options) : Log.Channels :=
  match o.logLevel with
  | none => .initial
  | some level => (Log.Channels.initial.setUp Log.libraryName (.int level) none).2

end Options

end Extraction
