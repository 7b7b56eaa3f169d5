import Extraction.Options
import Extraction.Proofs.Evaluation.Result
import Mathlib.Data.List.Basic

/-!
# Values before the environment

Four fields of the options may be set in the environment. A value that is given for such a field
comes before the text of its variable, which then makes no difference to the options. Yet the text
is read before the values are looked at: the variables of the size of the store and of the level of
the log may hold texts that cannot be read, and then there are no options, whatever is given. So a
given value hides all of its variable but such a text.

## Main definitions

* `Options.Variable` : the variables of an environment that are read.
* `Options.obstacle?` : why the texts of an environment cannot be read.
* `Options.chosen` : the values that are given and are not empty.

## Main results

* `Options.fromEnvironment_eq` : the options are those of the values and the texts together, unless
  a text cannot be read.
* `Options.fromEnvironment_eq_iff` : when two environments that differ in a variable behind a given
  value have the same options.
-/

namespace Extraction.Options

/-- The variables of an environment that are read. -/
inductive Variable where
  | builder
  | cacheSize
  | logLevel
  | keepsLinks
  deriving DecidableEq, Repr

namespace Variable

/-- The variables in the order in which they are read. -/
def all : List Variable :=
  [builder, cacheSize, logLevel, keepsLinks]

/-- The name of a variable without the lead that all of them share. -/
def suffix : Variable → String
  | builder => "PARSER"
  | cacheSize => "CACHE_SIZE"
  | logLevel => "LOG_LEVEL"
  | keepsLinks => "KEEP_RELATIVE_URLS"

/-- The name of a variable. -/
def fullName (x : Variable) : String :=
  "HTML_QUERY_" ++ x.suffix

/-- The name of the field that a variable sets. -/
def fieldName : Variable → String
  | builder => "parser"
  | cacheSize => "cache_size"
  | logLevel => "log_level"
  | keepsLinks => "keep_relative_urls"

/-- The value that the text of a variable stands for. -/
def ofText : Variable → String → Except Fault Value
  | builder, s => .ok (.text s)
  | cacheSize, s => (Integer.read s).map Value.int
  | logLevel, s => (Log.Level.resolve (.text s)).map Log.Level.toValue
  | keepsLinks, s => .ok (.bool (switchTexts.contains (Text.lowerString s)))

/-- The value that an environment gives for a variable, if it sets it. -/
def reading (x : Variable) (env : Environment) : Except Fault (Option Value) :=
  match setting? env x.suffix with
  | none => .ok none
  | some s => (x.ofText s).map some

/-- Why the text of a variable cannot be read. -/
def refused? (x : Variable) (env : Environment) : Option Fault :=
  match x.reading env with
  | .ok _ => none
  | .error f => some f

/-- The value that an environment gives for a variable, if the text can be read. -/
def value? (x : Variable) (env : Environment) : Option Value :=
  match x.reading env with
  | .ok v => v
  | .error _ => none

theorem fullName_injective {x y : Variable} (h : x.fullName = y.fullName) : x = y := by
  cases x <;> cases y <;> first | rfl | exact absurd h (by decide)

/-- A variable is read alike in two environments that agree on it. -/
theorem reading_congr {x : Variable} {env env' : Environment}
    (h : env.lookup x.fullName = env'.lookup x.fullName) : x.reading env = x.reading env' := by
  have hsetting : setting? env x.suffix = setting? env' x.suffix :=
    congrArg (Option.filter fun s : String => !s.isEmpty) h
  rw [reading, hsetting, reading]

/-- The texts of two of the variables can always be read. -/
theorem refused?_eq_none {x : Variable} (h : x = builder ∨ x = keepsLinks) (env : Environment) :
    x.refused? env = none := by
  unfold refused? reading
  obtain rfl | rfl := h
  · cases setting? env builder.suffix <;> rfl
  · cases setting? env keepsLinks.suffix <;> rfl

end Variable

/-- The entry that an environment makes for a variable, if it sets it to a text that can be read. -/
def Variable.entry? (x : Variable) (env : Environment) : Option (String × Value) :=
  (x.value? env).map fun v => (x.fieldName, v)

/-- Why the texts of an environment cannot be read: the first of them that cannot decides. -/
def obstacle? (env : Environment) : Option Fault :=
  Variable.all.findSome? fun x => x.refused? env

/-- The values that the readable texts of an environment stand for. -/
def found (env : Environment) : Given :=
  (Variable.all.map fun x => x.entry? env).filterMap id

/-- The values that are given and are not empty. -/
def chosen (values : Given) : Given :=
  values.filter fun (_, v) => match v with | .null => false | _ => true

/-! ### Reading an environment -/

section

variable (env : Environment)

theorem entry?_builder :
    Variable.builder.entry? env = (setting? env "PARSER").map fun s => ("parser", .text s) := by
  unfold Variable.entry? Variable.value? Variable.reading Variable.suffix
  cases setting? env "PARSER" <;> rfl

theorem entry?_keepsLinks :
    Variable.keepsLinks.entry? env = (setting? env "KEEP_RELATIVE_URLS").map fun s =>
      ("keep_relative_urls", .bool (switchTexts.contains (Text.lowerString s))) := by
  unfold Variable.entry? Variable.value? Variable.reading Variable.suffix
  cases setting? env "KEEP_RELATIVE_URLS" <;> rfl

/-- The entry that an environment makes for a variable, or the problem with its text. -/
def Variable.settle (x : Variable) : Except Problem (Option (String × Value)) :=
  match x.refused? env with
  | some f => .error (.fault f)
  | none => .ok (x.entry? env)

theorem settle_cacheSize :
    Variable.cacheSize.settle env =
      match setting? env "CACHE_SIZE" with
      | none => .ok none
      | some s =>
        match Integer.read s with
        | .ok n => .ok (some ("cache_size", .int n))
        | .error f => .error (.fault f) := by
  unfold Variable.settle Variable.refused? Variable.entry? Variable.value? Variable.reading
    Variable.suffix Variable.ofText
  cases setting? env "CACHE_SIZE" with
  | none => rfl
  | some s =>
    dsimp only
    cases Integer.read s <;> rfl

theorem settle_logLevel :
    Variable.logLevel.settle env =
      match setting? env "LOG_LEVEL" with
      | none => .ok none
      | some s =>
        match Log.Level.resolve (.text s) with
        | .ok level => .ok (some ("log_level", level.toValue))
        | .error f => .error (.fault f) := by
  unfold Variable.settle Variable.refused? Variable.entry? Variable.value? Variable.reading
    Variable.suffix Variable.ofText
  cases setting? env "LOG_LEVEL" with
  | none => rfl
  | some s =>
    dsimp only
    cases Log.Level.resolve (.text s) <;> rfl

theorem ofEnvironment_eq_bind :
    ofEnvironment env = (do
      let size ← Variable.cacheSize.settle env
      let level ← Variable.logLevel.settle env
      return [Variable.builder.entry? env, size, level,
        Variable.keepsLinks.entry? env].filterMap id) := by
  rw [settle_cacheSize, settle_logLevel, entry?_builder, entry?_keepsLinks, ofEnvironment]
  cases setting? env "CACHE_SIZE" with
  | none =>
    cases setting? env "LOG_LEVEL" with
    | none => rfl
    | some level =>
      dsimp only
      cases Log.Level.resolve (.text level) <;> rfl
  | some size =>
    dsimp only
    cases Integer.read size with
    | error f => rfl
    | ok n =>
      cases setting? env "LOG_LEVEL" with
      | none => rfl
      | some level =>
        dsimp only
        cases Log.Level.resolve (.text level) <;> rfl

end

/-- An environment gives the values of its texts, unless one of them cannot be read. -/
theorem ofEnvironment_eq (env : Environment) :
    ofEnvironment env =
      match obstacle? env with
      | some f => .error (.fault f)
      | none => .ok (found env) := by
  have hobstacle : obstacle? env =
      (Variable.cacheSize.refused? env).or (Variable.logLevel.refused? env) := by
    simp only [obstacle?, Variable.all, List.findSome?_cons, List.findSome?_nil,
      Variable.refused?_eq_none (.inl rfl), Variable.refused?_eq_none (.inr rfl)]
    cases Variable.cacheSize.refused? env <;> cases Variable.logLevel.refused? env <;> rfl
  rw [ofEnvironment_eq_bind, hobstacle, Variable.settle, Variable.settle]
  cases Variable.cacheSize.refused? env with
  | some f => rfl
  | none => cases Variable.logLevel.refused? env <;> rfl

/-- Under the name of a field there is the value of its variable. -/
theorem lookup_found (env : Environment) (name : String) :
    (found env).lookup name =
      Variable.all.findSome? fun x => if x.fieldName = name then x.value? env else none := by
  unfold found
  induction Variable.all with
  | nil => rfl
  | cons x xs ih =>
    rw [List.map_cons, List.findSome?_cons, Variable.entry?]
    cases x.value? env with
    | none =>
      rw [ite_self]
      exact ih
    | some v =>
      show List.lookup name ((x.fieldName, v) :: _) = _
      by_cases h : x.fieldName = name
      · rw [if_pos h, h, List.lookup_cons_self]
      · rw [if_neg h, List.lookup_cons, beq_false_of_ne (Ne.symm h)]
        exact ih

/-! ### Values and texts together -/

theorem read_congr {given given' : Given} (h : ∀ name, given.lookup name = given'.lookup name) :
    read given = read given' := by
  simp only [read, field, h]

/-- Values are never refused for a text of the environment. -/
theorem read_ne_fault (given : Given) (f : Fault) : read given ≠ .error (.fault f) := by
  unfold read
  dsimp only
  split
  · exact fun h => by cases h
  · exact fun h => by cases h

/-- The options are those of the values and the texts of the environment together, unless one of the
texts cannot be read. -/
theorem fromEnvironment_eq (env : Environment) (values : Given) :
    fromEnvironment env values =
      match obstacle? env with
      | some f => .error (.fault f)
      | none => read (chosen values ++ found env) := by
  rw [fromEnvironment, ofEnvironment_eq]
  cases obstacle? env <;> rfl

/-! ### Two environments -/

section

variable {x : Variable} {env env' : Environment} {values : Given}
  (hgiven : ∃ v, (x.fieldName, v) ∈ values ∧ v ≠ .null)
  (hsame : ∀ name, name ≠ x.fullName → env.lookup name = env'.lookup name)

include hgiven in
/-- A value that is given for a field and is not empty is found under the name of the field. -/
theorem lookup_chosen_ne_none : (chosen values).lookup x.fieldName ≠ none := by
  obtain ⟨v, hmem, hv⟩ := hgiven
  intro h
  have hchosen : (x.fieldName, v) ∈ chosen values := by
    refine List.mem_filter.2 ⟨hmem, ?_⟩
    cases v with
    | null => exact absurd rfl hv
    | _ => rfl
  have hne := List.lookup_eq_none_iff.1 h _ hchosen
  rw [bne_self_eq_false] at hne
  cases hne

include hsame in
/-- Any other variable is read alike in the two environments. -/
theorem reading_eq_of_ne {y : Variable} (h : y ≠ x) : y.reading env = y.reading env' :=
  Variable.reading_congr (hsame _ fun heq => h (Variable.fullName_injective heq))

include hsame in
/-- Under the name of any other field there is the same in the two environments. -/
theorem lookup_found_of_ne {name : String} (h : name ≠ x.fieldName) :
    (found env).lookup name = (found env').lookup name := by
  rw [lookup_found, lookup_found]
  congr 1
  funext y
  split_ifs with hy
  · have hne : y ≠ x := fun heq => h (heq ▸ hy.symm)
    rw [Variable.value?, reading_eq_of_ne hsame hne, Variable.value?]
  · rfl

include hgiven hsame in
/-- With a value given for the field of the variable, values and texts make the same options in the
two environments. -/
theorem read_chosen_found :
    read (chosen values ++ found env) = read (chosen values ++ found env') := by
  refine read_congr fun name => ?_
  rw [List.lookup_append, List.lookup_append]
  by_cases h : name = x.fieldName
  · obtain ⟨v, hv⟩ := Option.ne_none_iff_exists'.1 (lookup_chosen_ne_none hgiven)
    rw [h, hv]
    rfl
  · rw [lookup_found_of_ne hsame h]

include hsame in
/-- Two environments that differ in a variable whose text can always be read have the same
obstacle. -/
theorem obstacle?_eq_of_readable (h : x = .builder ∨ x = .keepsLinks) :
    obstacle? env = obstacle? env' := by
  unfold obstacle?
  congr 1
  funext y
  by_cases hy : y = x
  · rw [hy, Variable.refused?_eq_none h, Variable.refused?_eq_none h]
  · rw [Variable.refused?, reading_eq_of_ne hsame hy, Variable.refused?]

end

/-- **Given values hide the environment, but for what cannot be read.** Take any variable, any
values, of which one is for the field of the variable and is not empty, and any two environments
that agree on every other variable. The two have the same outcome, be it options or a problem,
exactly if the same text, or none, keeps each of them from being read. That is always so for the
variables of the tree builder and of the links; the texts of the other two may be none that can be
read, and then they are refused although they would not count. -/
theorem fromEnvironment_eq_iff (x : Variable) (env env' : Environment) (values : Given)
    (hgiven : ∃ v, (x.fieldName, v) ∈ values ∧ v ≠ .null)
    (hsame : ∀ name, name ≠ x.fullName → env.lookup name = env'.lookup name) :
    (fromEnvironment env values = fromEnvironment env' values ↔ obstacle? env = obstacle? env') ∧
      (x = .builder ∨ x = .keepsLinks →
        fromEnvironment env values = fromEnvironment env' values) := by
  have hread := read_chosen_found hgiven hsame
  have hiff : fromEnvironment env values = fromEnvironment env' values ↔
      obstacle? env = obstacle? env' := by
    rw [fromEnvironment_eq, fromEnvironment_eq, hread]
    cases obstacle? env with
    | none =>
      cases obstacle? env' with
      | none => exact iff_of_true rfl rfl
      | some f' => exact iff_of_false (read_ne_fault _ f') nofun
    | some f =>
      cases obstacle? env' with
      | none => exact iff_of_false (fun h => read_ne_fault _ f h.symm) nofun
      | some f' =>
        refine ⟨fun h => ?_, fun h => ?_⟩
        · injection h with h
          injection h with h
          rw [h]
        · rw [Option.some.inj h]
  exact ⟨hiff, fun h => hiff.2 (obstacle?_eq_of_readable hsame h)⟩

/-- A level of the log that is given hides one that means nothing in the environment: what keeps
both environments from being read is the size of the store. -/
theorem fromEnvironment_eq_iff_logLevel :
    let env : Environment := [("HTML_QUERY_CACHE_SIZE", "many")]
    let env' : Environment :=
      [("HTML_QUERY_CACHE_SIZE", "many"), ("HTML_QUERY_LOG_LEVEL", "loud")]
    let values : Given := [("log_level", .int 10)]
    (∃ v, (Variable.logLevel.fieldName, v) ∈ values ∧ v ≠ .null) ∧
      (∀ name, name ≠ Variable.logLevel.fullName → env.lookup name = env'.lookup name) ∧
      fromEnvironment env values = fromEnvironment env' values := by
  intro env env' values
  have hgiven : ∃ v, (Variable.logLevel.fieldName, v) ∈ values ∧ v ≠ .null :=
    ⟨.int 10, List.mem_singleton.2 rfl, nofun⟩
  have hsame (name : String) (h : name ≠ Variable.logLevel.fullName) :
      env.lookup name = env'.lookup name := by
    have hlevel : (name == "HTML_QUERY_LOG_LEVEL") = false := beq_false_of_ne h
    simp only [env, env', List.lookup_cons, List.lookup_nil, hlevel]
  have hobstacle : obstacle? env = obstacle? env' := rfl
  exact ⟨hgiven, hsame,
    (fromEnvironment_eq_iff .logLevel env env' values hgiven hsame).1.2 hobstacle⟩

/-- A size that is given for the store does not hide a text of the environment that is none. -/
theorem fromEnvironment_unreadable :
    fromEnvironment [("HTML_QUERY_CACHE_SIZE", "x")] [("cache_size", .int 5)] =
        .error (.fault (.badInteger "x")) ∧
      fromEnvironment [] [("cache_size", .int 5)] = .ok { cacheSize := 5 } :=
  ⟨rfl, rfl⟩

end Extraction.Options
