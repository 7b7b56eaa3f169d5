import Extraction.Proofs.Query.Segment

/-!
# Spellings of filter calls

A filter call is written as its name and its arguments, with a colon before each of them. An
argument stands there as it is, or in quotes of either kind. However the call is written, and with
any blanks around the pipe before it, it is read as its name and the values of its arguments.

## Main definitions

* `Query.Spelling.Argument`, `Query.Spelling.Call` : how an argument and a call are written.
* `Query.Spelling.Call.meaning` : the filter call that is meant.
* `Query.Spelling.chain` : calls with pipes before them.

## Main results

* `Query.Spelling.readCall?_text` : a call is read as what it means.
* `Query.Spelling.map_trim_pipePieces_chain` : the segments of a chain.
* `Query.Spelling.readChain_joinWith` : a chain is read as the calls that it means.
-/

namespace Extraction.Query

open Text

/-- Whether a character is a quote. -/
def isQuote (c : Char) : Bool :=
  c = '\'' || c = '"'

/-- Whether a text begins with a quote. -/
def beginsWithQuote (s : List Char) : Bool :=
  s.head?.any isQuote

/-! ### Parts between colons -/

theorem splitArgumentsFrom_colon (current rest : List Char) :
    splitArgumentsFrom none current (':' :: rest) =
      current.reverse :: splitArgumentsFrom none [] rest := by
  rw [splitArgumentsFrom, if_neg (by simp), if_pos rfl]

theorem splitArgumentsFrom_bare {p current : List Char} (hcolon : ':' ∉ p)
    (hquote : current = [] → beginsWithQuote p = false) (rest : List Char) :
    splitArgumentsFrom none current (p ++ rest) =
      splitArgumentsFrom none (p.reverse ++ current) rest := by
  induction p generalizing current with
  | nil => rfl
  | cons c p ih =>
    rw [List.mem_cons, not_or] at hcolon
    have hopen : ¬((c = '\'' || c = '"') && current.isEmpty) = true := by
      rw [Bool.and_eq_true, List.isEmpty_iff]
      rintro ⟨hc, hempty⟩
      have hc' : isQuote c = false := hquote hempty
      rw [isQuote, hc] at hc'
      cases hc'
    rw [List.cons_append, splitArgumentsFrom, if_neg hopen, if_neg (Ne.symm hcolon.1),
      ih hcolon.2 (fun h => by cases h), List.reverse_cons, List.append_assoc,
      List.singleton_append]

theorem splitArgumentsFrom_inside {q : Char} {p : List Char} (hp : q ∉ p)
    (current rest : List Char) :
    splitArgumentsFrom (some q) current (p ++ q :: rest) =
      splitArgumentsFrom none (p.reverse ++ current) rest := by
  induction p generalizing current with
  | nil => rw [List.nil_append, splitArgumentsFrom, if_pos rfl, List.reverse_nil, List.nil_append]
  | cons c p ih =>
    rw [List.mem_cons, not_or] at hp
    rw [List.cons_append, splitArgumentsFrom, if_neg (Ne.symm hp.1), ih hp.2, List.reverse_cons,
      List.append_assoc, List.singleton_append]

namespace Spelling

/-- How an argument is written. -/
inductive Argument where
  /-- The value as it is. -/
  | bare (value : List Char)
  /-- The value between two quotes. -/
  | quoted (quote : Char) (value : List Char)

namespace Argument

/-- The value of an argument. -/
def value : Argument → List Char
  | bare v => v
  | quoted _ v => v

/-- The text of an argument. -/
def text : Argument → List Char
  | bare v => v
  | quoted q v => q :: v ++ [q]

/-- An argument that may be written so: its pipes are guarded, a bare one has no colon, does not
begin with a quote and is trimmed, and a quoted one does not hold its quote. -/
def Proper : Argument → Prop
  | bare v => Guarded v ∧ ':' ∉ v ∧ beginsWithQuote v = false ∧ Trimmed v
  | quoted q v => Guarded v ∧ isQuote q = true ∧ q ∉ v

instance decidableProper : DecidablePred Proper
  | bare v =>
    inferInstanceAs (Decidable (Guarded v ∧ ':' ∉ v ∧ beginsWithQuote v = false ∧ Trimmed v))
  | quoted q v => inferInstanceAs (Decidable (Guarded v ∧ isQuote q = true ∧ q ∉ v))

end Argument

/-- How a filter call is written, with the blanks on the two sides of the pipe before it. -/
structure Call where
  /-- The name of the filter. -/
  name : List Char
  /-- Its arguments. -/
  arguments : List Argument
  /-- The blanks before the pipe. -/
  before : List Char
  /-- The blanks after the pipe. -/
  after : List Char

namespace Call

/-- The text of a call, without the pipe. -/
def text (c : Call) : List Char :=
  c.name ++ c.arguments.flatMap fun a => ':' :: a.text

/-- The filter call that is meant. -/
def meaning (c : Call) : FilterCall :=
  ⟨String.ofList c.name, c.arguments.map fun a => String.ofList a.value⟩

/-- A call that may be written so: its name is a trimmed text without colons that begins neither
with a quote nor with an equals sign, and its pipes are guarded. -/
structure Proper (c : Call) : Prop where
  nonempty : c.name ≠ []
  trimmed : Trimmed c.name
  noColon : ':' ∉ c.name
  noQuote : beginsWithQuote c.name = false
  noEquals : c.name.head? ≠ some '='
  guarded : Guarded c.name
  arguments : ∀ a ∈ c.arguments, a.Proper
  before : allBlank c.before = true
  after : allBlank c.after = true

instance decidableProper (c : Call) : Decidable c.Proper :=
  decidable_of_iff ((c.name ≠ [] ∧ Trimmed c.name ∧ ':' ∉ c.name) ∧
      (beginsWithQuote c.name = false ∧ c.name.head? ≠ some '=' ∧ Guarded c.name) ∧
      (∀ a ∈ c.arguments, a.Proper) ∧ allBlank c.before = true ∧ allBlank c.after = true)
    ⟨fun ⟨⟨h1, h2, h3⟩, ⟨h4, h5, h6⟩, h7, h8, h9⟩ => ⟨h1, h2, h3, h4, h5, h6, h7, h8, h9⟩,
      fun h => ⟨⟨h.nonempty, h.trimmed, h.noColon⟩, ⟨h.noQuote, h.noEquals, h.guarded⟩,
        h.arguments, h.before, h.after⟩⟩

end Call

/-- Calls with pipes before them. -/
def chain (calls : List Call) : List Char :=
  calls.flatMap fun c => c.before ++ '|' :: c.after ++ c.text

/-! ### Reading a call -/

theorem splitArgumentsFrom_argument {a : Argument} (ha : a.Proper) (rest : List Char) :
    splitArgumentsFrom none [] (a.text ++ rest) =
      splitArgumentsFrom none a.value.reverse rest := by
  cases a with
  | bare v =>
    obtain ⟨-, hcolon, hquote, -⟩ := ha
    rw [Argument.text, splitArgumentsFrom_bare hcolon (fun _ => hquote), List.append_nil,
      Argument.value]
  | quoted q v =>
    obtain ⟨-, hq, hv⟩ := ha
    have hopen : ((q = '\'' || q = '"') && ([] : List Char).isEmpty) = true := by
      rw [Bool.and_eq_true]
      exact ⟨hq, rfl⟩
    rw [Argument.text, List.append_assoc, List.cons_append, splitArgumentsFrom, if_pos hopen,
      List.singleton_append, splitArgumentsFrom_inside hv, List.append_nil, Argument.value]

theorem splitArgumentsFrom_arguments {args : List Argument} (h : ∀ a ∈ args, a.Proper)
    (current : List Char) :
    splitArgumentsFrom none current (args.flatMap fun a => ':' :: a.text) =
      current.reverse :: args.map Argument.value := by
  induction args generalizing current with
  | nil => rfl
  | cons a args ih =>
    rw [List.flatMap_cons, List.cons_append, splitArgumentsFrom_colon,
      splitArgumentsFrom_argument (h a List.mem_cons_self),
      ih fun b hb => h b (List.mem_cons_of_mem a hb), List.reverse_reverse, List.map_cons]

variable {c : Call} {calls : List Call}

theorem splitArguments_text (hc : c.Proper) :
    splitArguments c.text = c.name :: c.arguments.map Argument.value := by
  rw [splitArguments, Call.text, splitArgumentsFrom_bare hc.noColon (fun _ => hc.noQuote),
    List.append_nil, splitArgumentsFrom_arguments hc.arguments, List.reverse_reverse]

theorem Argument.Proper.trimmed {a : Argument} (ha : a.Proper) : Trimmed a.text := by
  cases a with
  | bare v => exact ha.2.2.2
  | quoted q v =>
    have hq : isBlank q = false := by
      have h := ha.2.1
      rw [isQuote, Bool.or_eq_true, decide_eq_true_eq, decide_eq_true_eq] at h
      rcases h with rfl | rfl <;> decide
    exact trimmed_cons_append hq hq v

theorem Argument.Proper.guarded {a : Argument} (ha : a.Proper) : Guarded a.text := by
  cases a with
  | bare v => exact ha.1
  | quoted q v =>
    have hq : Guarded [q] := by
      refine guarded_of_notMem fun h => ?_
      obtain rfl := List.mem_singleton.1 h
      exact absurd ha.2.1 (by decide)
    exact (hq.append ha.1).append hq

/-- What holds of the name of a call, of a colon and of every argument holds of the call. -/
theorem Call.text_of_parts {P : List Char → Prop} (hnil : P []) (hcolon : P [':'])
    (happend : ∀ {s t}, P s → P t → P (s ++ t)) (hname : P c.name)
    (harguments : ∀ a ∈ c.arguments, P a.text) : P c.text := by
  refine happend hname ?_
  generalize c.arguments = args at harguments
  induction args with
  | nil => exact hnil
  | cons a args ih =>
    rw [List.flatMap_cons]
    exact happend (happend hcolon (harguments a List.mem_cons_self))
      (ih fun b hb => harguments b (List.mem_cons_of_mem a hb))

theorem Call.Proper.trimmed_text (hc : c.Proper) : Trimmed c.text :=
  Call.text_of_parts trimmed_nil (by decide) Trimmed.append hc.trimmed
    fun a ha => (hc.arguments a ha).trimmed

theorem Call.Proper.guarded_text (hc : c.Proper) : Guarded c.text :=
  Call.text_of_parts trivial (guarded_of_notMem (by decide)) Guarded.append hc.guarded
    fun a ha => (hc.arguments a ha).guarded

theorem Call.Proper.text_ne_nil (hc : c.Proper) : c.text ≠ [] :=
  List.append_ne_nil_of_left_ne_nil hc.nonempty _

theorem Call.Proper.head?_text (hc : c.Proper) : c.text.head? = c.name.head? := by
  obtain ⟨d, s, hs⟩ := List.exists_cons_of_ne_nil hc.nonempty
  rw [Call.text, hs]
  rfl

/-- A call is read as what it means. -/
theorem readCall?_text (hc : c.Proper) : readCall? c.text = some c.meaning := by
  have hne : ¬c.text.isEmpty = true := by simpa using hc.text_ne_nil
  simp only [readCall?, hc.trimmed_text.trim_eq, if_neg hne, splitArguments_text hc,
    hc.trimmed.trim_eq, Call.meaning, List.map_map, Function.comp_def]

/-! ### Reading a chain -/

/-- The segments of a chain after a guarded text are that text and the calls. -/
theorem map_trim_pipePieces_chain (h : ∀ c ∈ calls, c.Proper) {s : List Char} (hs : Guarded s) :
    (pipePieces (s ++ chain calls)).map trim = trim s :: calls.map Call.text := by
  induction calls generalizing s with
  | nil => rw [chain, List.flatMap_nil, List.append_nil, pipePieces_of_guarded hs]; rfl
  | cons c calls ih =>
    have hc := h c List.mem_cons_self
    have hhead : (c.after ++ c.text ++ chain calls).head? ≠ some '=' := by
      cases hafter : c.after with
      | nil =>
        obtain ⟨d, t, ht⟩ := List.exists_cons_of_ne_nil hc.text_ne_nil
        have hd := hc.noEquals
        rw [← hc.head?_text, ht] at hd
        rw [List.nil_append, ht]
        exact hd
      | cons b bs =>
        intro hb
        obtain rfl : b = '=' := Option.some.inj hb
        exact notMem_of_all hc.after (c := '=') (by decide) (by simp [hafter])
    have hsplit : s ++ chain (c :: calls) =
        s ++ c.before ++ '|' :: (c.after ++ c.text ++ chain calls) := by
      simp [chain]
    have hrest : Guarded (c.after ++ c.text) :=
      (guarded_of_allBlank hc.after).append hc.guarded_text
    rw [hsplit, pipePieces_append_pipe (hs.append (guarded_of_allBlank hc.before)) hhead,
      List.map_cons, ih (fun d hd => h d (List.mem_cons_of_mem c hd)) hrest,
      trim_append_blank hc.before, trim_blank_append hc.after, hc.trimmed_text.trim_eq,
      List.map_cons]

theorem filterMap_readCall?_text (h : ∀ c ∈ calls, c.Proper) :
    (calls.map Call.text).filterMap readCall? = calls.map Call.meaning := by
  induction calls with
  | nil => rfl
  | cons c calls ih =>
    rw [List.map_cons, List.filterMap_cons_some (readCall?_text (h c List.mem_cons_self)),
      ih fun d hd => h d (List.mem_cons_of_mem c hd), List.map_cons]

/-- The calls of a chain, joined again by pipes, are read as what they mean. -/
theorem readChain_joinWith (h : ∀ c ∈ calls, c.Proper) :
    readChain (joinWith ['|'] (calls.map Call.text)) = calls.map Call.meaning := by
  rw [readChain_eq_filterMap, ← filterMap_readCall?_text h]
  cases calls with
  | nil => rfl
  | cons c calls =>
    refine congrArg (List.filterMap readCall?) ?_
    refine (pipePieces_joinWith fun p hp => ?_).trans (fused_eq_self fun p hp => ?_)
    · obtain ⟨d, hd, rfl⟩ := List.mem_map.1 (show p ∈ (c :: calls).map Call.text from hp)
      exact (h d hd).guarded_text
    · obtain ⟨d, hd, rfl⟩ := List.mem_map.1 hp
      have hd' := h d (List.mem_cons_of_mem c hd)
      rw [hd'.head?_text]
      exact hd'.noEquals

end Spelling

end Extraction.Query
