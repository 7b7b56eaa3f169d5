import Extraction.Proofs.Query.Store
import Extraction.Query.Session
import Mathlib.Algebra.Order.Ring.Int
import Mathlib.Data.List.Nodup

/-!
# The history of a store

A session reads queries by way of a store and also works on the store itself. What is found in the
store is decided by the steps since it was last cleared: a step offers a descriptor for a key, and
the first offer for a key is taken if there is room for it. Nothing else changes the store, so an
entry stays as it is until the store is cleared, and a query that is refused leaves no mark.

## Main definitions

* `Query.Session.Step.Offers` : the descriptor that a step has for a key.
* `Query.Session.Stores` : a step that takes a descriptor into the store.
* `Query.Session.Lawful` : what holds of a session after several steps.

## Main results

* `Query.Session.store_step` : what a step does to the store.
* `Query.Session.get?_after_iff` : what is found in the store after several steps.
* `Query.Session.lawful_after` : the law of a session.
-/

namespace Extraction.Query

open Text

namespace Cache

theorem contains_iff {c : Cache} {key : String} :
    c.contains key = true ↔ ∃ d, c.get? key = some d :=
  Option.isSome_iff_exists

theorem put_of_get?_eq_some {c : Cache} {key : String} {d : Descriptor} (h : c.get? key = some d)
    (d' : Descriptor) : c.put key d' = (.present, c) :=
  dif_pos (contains_iff.2 ⟨d, h⟩)

/-- A descriptor is put after the entries, if its key is not among them and there is room. -/
theorem entries_put_of_get?_eq_none {c : Cache} {key : String} (h : c.get? key = none)
    (d : Descriptor) :
    (c.put key d).2.entries =
      if c.size < c.capacity then c.entries ++ [(key, d)] else c.entries := by
  have habsent : ¬c.contains key = true := by simp [contains, h]
  rw [put, dif_neg habsent]
  split_ifs <;> rfl

theorem capacity_put (c : Cache) (key : String) (d : Descriptor) :
    (c.put key d).2.capacity = c.capacity := by
  unfold put
  split_ifs <;> rfl

/-- Putting a descriptor in succeeds if its key was present or if there was room. -/
theorem succeeds_put_iff {c : Cache} {key : String} {d : Descriptor} :
    (c.put key d).1.succeeds = true ↔ (∃ x, c.get? key = some x) ∨ c.size < c.capacity := by
  rw [← contains_iff]
  unfold put
  split_ifs with hpresent hroom
  · exact iff_of_true rfl (.inl hpresent)
  · exact iff_of_true rfl (.inr hroom)
  · exact iff_of_false (by simp [Put.succeeds]) (by simp [hpresent, hroom])

/-- Putting a descriptor in succeeds exactly if its key is present afterwards. -/
theorem succeeds_put_iff_contains {c : Cache} {key : String} {d : Descriptor} :
    (c.put key d).1.succeeds = true ↔ ∃ x, (c.put key d).2.get? key = some x := by
  rw [succeeds_put_iff, get?_put]
  cases c.get? key with
  | some x => simp
  | none => simp

end Cache

namespace Session

/-- The store of a session. -/
def store (s : Session) : Cache :=
  s.trace.cache

/-- A session on an empty store of a capacity. -/
def start (capacity : Int) : Session :=
  { trace := ⟨.empty capacity, []⟩ }

/-- A session after several steps. -/
def after (s : Session) (steps : List Step) : Session :=
  steps.foldl (fun s d => (s.step d).2) s

@[simp] theorem after_nil (s : Session) : s.after [] = s :=
  rfl

@[simp] theorem after_cons (s : Session) (d : Step) (steps : List Step) :
    s.after (d :: steps) = (s.step d).2.after steps :=
  rfl

/-! ### Offers -/

/-- A step has a descriptor for a key: the descriptor is put there, or it is what the text of a
query, which is the key, is read as. -/
inductive Step.Offers : Step → String → Descriptor → Prop
  /-- A descriptor that is put under a key. -/
  | put (key : String) (d : Descriptor) : Offers (.put key d) key d
  /-- A query whose trimmed text can be read. -/
  | parse {query : Value} {key : String} {d : Descriptor} :
      trimmedText query = .ok key → Descriptor.read key.toList = .ok d → Offers (.parse query) key d

/-- A step takes a descriptor into the store of a session: it offers it for a key that is not
present, and there is room. -/
structure Stores (s : Session) (step : Step) (key : String) (d : Descriptor) : Prop where
  offers : step.Offers key d
  absent : s.store.get? key = none
  room : s.store.size < s.store.capacity

theorem Step.Offers.unique {step : Step} {key key' : String} {d d' : Descriptor}
    (h : step.Offers key d) (h' : step.Offers key' d') : key = key' ∧ d = d' := by
  cases h with
  | put => cases h'; exact ⟨rfl, rfl⟩
  | parse hkey hd =>
    cases h' with
    | parse hkey' hd' =>
      obtain rfl := Except.ok.inj (hkey.symm.trans hkey')
      exact ⟨rfl, Except.ok.inj (hd.symm.trans hd')⟩

theorem Step.Offers.ne_clear {step : Step} {key : String} {d : Descriptor}
    (h : step.Offers key d) : step ≠ .clear := by
  rintro rfl
  cases h

/-! ### Reading a query -/

/-- The session answers with what reading a query gives, and keeps the store that it leaves. -/
theorem parse_eq (s : Session) (query : Value) :
    (s.parse query).2.store = ((Query.parse query).runFrom s.trace).2.cache ∧
      match ((Query.parse query).runFrom s.trace).1 with
      | .error f => (s.parse query).1 = .failed f
      | .ok d => ∃ first, (s.parse query).1 = .parsed d first := by
  unfold parse
  rcases (Query.parse query).runFrom s.trace with ⟨f | d, t⟩
  · exact ⟨rfl, rfl⟩
  · exact ⟨rfl, _, rfl⟩

/-- A query that is not a text, is blank or is too long is cited as it was given. -/
theorem refusal_of_trimmedText {query : Value} {cause : Refusal}
    (h : trimmedText query = .error cause) (text : String) :
    refusal query text cause = .refused cause query := by
  unfold trimmedText at h
  split at h
  · simp only at h
    split_ifs at h <;> cases h <;> rfl
  · cases h
    rfl

/-- A value that is not a text, or a text that is blank or too long, is refused. -/
theorem exists_trimmedText_eq_error {query : Value}
    (h : ∀ text, query = .text text →
      trim text.toList = [] ∨ (trim text.toList).length > maxLength) :
    ∃ cause, trimmedText query = .error cause := by
  unfold trimmedText
  split
  · rename_i text
    rcases h text rfl with hblank | hlong
    · exact ⟨.blank, by simp [hblank]⟩
    · by_cases hblank : (trim text.toList).isEmpty = true
      · exact ⟨.blank, if_pos hblank⟩
      · exact ⟨.tooLong _, (if_neg hblank).trans (if_pos hlong)⟩
  · exact ⟨.notText _, rfl⟩

section Parse

variable {s : Session} {query : Value} {key : String}

theorem parse_of_invalid {cause : Refusal} (h : trimmedText query = .error cause) :
    (s.parse query).1 = .failed (.refused cause query) ∧ (s.parse query).2.store = s.store := by
  have hs := s.parse_eq query
  simp only [runFrom_parse, h, refusal_of_trimmedText h] at hs
  exact ⟨hs.2, hs.1⟩

theorem parse_of_present {d : Descriptor} (h : trimmedText query = .ok key)
    (hd : s.store.get? key = some d) :
    (∃ first, (s.parse query).1 = .parsed d first) ∧ (s.parse query).2.store = s.store := by
  have hs := s.parse_eq query
  simp only [runFrom_parse, h, show s.trace.cache.get? key = some d from hd] at hs
  exact ⟨hs.2, hs.1⟩

theorem parse_of_absent {d : Descriptor} (h : trimmedText query = .ok key)
    (habsent : s.store.get? key = none) (hd : Descriptor.read key.toList = .ok d) :
    (∃ first, (s.parse query).1 = .parsed d first) ∧
      (s.parse query).2.store = (s.store.put key d).2 := by
  have hs := s.parse_eq query
  simp only [runFrom_parse, h, show s.trace.cache.get? key = none from habsent, hd] at hs
  exact ⟨hs.2, hs.1⟩

theorem parse_of_malformed {cause : Refusal} (h : trimmedText query = .ok key)
    (habsent : s.store.get? key = none) (hcause : Descriptor.read key.toList = .error cause) :
    (s.parse query).1 = .failed (refusal query key cause) ∧
      (s.parse query).2.store = s.store := by
  have hs := s.parse_eq query
  simp only [runFrom_parse, h, show s.trace.cache.get? key = none from habsent, hcause] at hs
  exact ⟨hs.2, hs.1⟩

end Parse

/-! ### One step -/

/-- A step that offers a descriptor leaves the store with the descriptor put into it; if the key is
present already, that is the store as it was. -/
theorem store_step_of_offers {s : Session} {step : Step} {key : String} {d : Descriptor}
    (h : step.Offers key d) : (s.step step).2.store = (s.store.put key d).2 := by
  cases h with
  | put => rfl
  | parse hkey hd =>
    cases hget : s.store.get? key with
    | some x =>
      rw [Cache.put_of_get?_eq_some hget]
      exact (parse_of_present hkey hget).2
    | none => exact (parse_of_absent hkey hget hd).2

/-- A step that offers nothing leaves the store as it was, unless it clears it. -/
theorem store_step_of_not_offers {s : Session} {step : Step} (h : ∀ key d, ¬step.Offers key d)
    (hclear : step ≠ .clear) : (s.step step).2.store = s.store := by
  cases step with
  | parse query =>
    cases hkey : trimmedText query with
    | error cause => exact (parse_of_invalid hkey).2
    | ok key =>
      cases hget : s.store.get? key with
      | some x => exact (parse_of_present hkey hget).2
      | none =>
        cases hread : Descriptor.read key.toList with
        | error cause => exact (parse_of_malformed hkey hget hread).2
        | ok d => exact absurd (.parse hkey hread) (h key d)
  | contains key => rfl
  | get key => rfl
  | put key d => exact absurd (.put key d) (h key d)
  | clear => exact absurd rfl hclear

/-- What a step does to the store: it clears it, or it puts in what it offers, or it leaves it as
it was. -/
theorem store_step (s : Session) (step : Step) :
    (step = .clear ∧ (s.step step).2.store = s.store.clear) ∨
      (∃ key d, step.Offers key d ∧ (s.step step).2.store = (s.store.put key d).2) ∨
      (step ≠ .clear ∧ (∀ key d, ¬step.Offers key d) ∧ (s.step step).2.store = s.store) := by
  by_cases hclear : step = .clear
  · subst hclear
    exact .inl ⟨rfl, rfl⟩
  · by_cases h : ∃ key d, step.Offers key d
    · obtain ⟨key, d, h⟩ := h
      exact .inr (.inl ⟨key, d, h, store_step_of_offers h⟩)
    · have hnone : ∀ key d, ¬step.Offers key d := fun key d hoffers => h ⟨key, d, hoffers⟩
      exact .inr (.inr ⟨hclear, hnone, store_step_of_not_offers hnone hclear⟩)

theorem capacity_step (s : Session) (step : Step) :
    (s.step step).2.store.capacity = s.store.capacity := by
  obtain ⟨-, h⟩ | ⟨key, d, -, h⟩ | ⟨-, -, h⟩ := s.store_step step
  · rw [h]
    rfl
  · rw [h, Cache.capacity_put]
  · rw [h]

/-- A descriptor is found after a step if it was found before and the step does not clear the
store, or if the step takes it in. -/
theorem get?_step_iff {s : Session} {step : Step} {key : String} {d : Descriptor} :
    (s.step step).2.store.get? key = some d ↔
      (step ≠ .clear ∧ s.store.get? key = some d) ∨ s.Stores step key d := by
  obtain ⟨rfl, h⟩ | ⟨key', d', hoffers, h⟩ | ⟨hclear, hnone, h⟩ := s.store_step step
  · rw [h, Cache.get?_clear]
    refine iff_of_false (by simp) ?_
    rintro (⟨hne, -⟩ | ⟨hoffers, -, -⟩)
    · exact hne rfl
    · exact hoffers.ne_clear rfl
  · rw [h, Cache.get?_put]
    constructor
    · intro hd
      split_ifs at hd with hput
      · obtain ⟨habsent, hroom, rfl⟩ := hput
        obtain rfl := Option.some.inj hd
        exact .inr ⟨hoffers, habsent, hroom⟩
      · exact .inl ⟨hoffers.ne_clear, hd⟩
    · rintro (⟨-, hd⟩ | ⟨hoffers', habsent, hroom⟩)
      · rw [if_neg, hd]
        rintro ⟨habsent, -, rfl⟩
        rw [habsent] at hd
        cases hd
      · obtain ⟨rfl, rfl⟩ := hoffers.unique hoffers'
        rw [if_pos ⟨habsent, hroom, rfl⟩]
  · rw [h]
    constructor
    · exact fun hd => .inl ⟨hclear, hd⟩
    · rintro (⟨-, hd⟩ | ⟨hoffers, -, -⟩)
      · exact hd
      · exact absurd hoffers (hnone key d)

/-! ### Several steps -/

theorem capacity_after (s : Session) (steps : List Step) :
    (s.after steps).store.capacity = s.store.capacity := by
  induction steps generalizing s with
  | nil => rfl
  | cons step steps ih => rw [after_cons, ih, capacity_step]

/-- A descriptor is found after several steps if one of them took it in and none after that one
cleared the store, or if it was found at first and none cleared the store. -/
theorem get?_after_iff {s : Session} {steps : List Step} {key : String} {d : Descriptor} :
    (s.after steps).store.get? key = some d ↔
      (.clear ∉ steps ∧ s.store.get? key = some d) ∨
        ∃ before step later, steps = before ++ step :: later ∧ .clear ∉ later ∧
          (s.after before).Stores step key d := by
  induction steps generalizing s with
  | nil => simp
  | cons step steps ih =>
    rw [after_cons, ih, get?_step_iff]
    constructor
    · rintro (⟨hclear, ⟨hne, hd⟩ | hstores⟩ | ⟨before, step', later, rfl, hclear, hstores⟩)
      · exact .inl ⟨List.not_mem_cons_of_ne_of_not_mem hne.symm hclear, hd⟩
      · exact .inr ⟨[], step, steps, rfl, hclear, hstores⟩
      · exact .inr ⟨step :: before, step', later, rfl, hclear, hstores⟩
    · rintro (⟨hclear, hd⟩ | ⟨before, step', later, hsteps, hclear, hstores⟩)
      · rw [List.mem_cons, not_or] at hclear
        exact .inl ⟨hclear.2, .inl ⟨Ne.symm hclear.1, hd⟩⟩
      · cases before with
        | nil =>
          obtain ⟨rfl, rfl⟩ := List.cons.inj hsteps
          exact .inl ⟨hclear, .inr hstores⟩
        | cons first before =>
          obtain ⟨rfl, rfl⟩ := List.cons.inj hsteps
          exact .inr ⟨before, step', later, rfl, hclear, hstores⟩

/-- In a run, every step answers what it answers after the steps before it. -/
theorem getElem?_run (s : Session) (before : List Step) (step : Step) (later : List Step) :
    (s.run (before ++ step :: later))[before.length]? =
      some (((s.after before).step step).1, ((s.after before).step step).2.store.size) := by
  induction before generalizing s with
  | nil => rfl
  | cons first before ih =>
    rw [List.cons_append, run, List.length_cons, List.getElem?_cons_succ, ih, after_cons]

/-! ### The law of a session -/

/-- What holds of a session on a store of a capacity after several steps, whatever they are. -/
structure Lawful (capacity : Int) (past : List Step) (s : Session) : Prop where
  /-- There are no more entries than the capacity allows. -/
  bounded : (s.store.size : Int) ≤ max capacity 0
  /-- The keys of the entries are different. -/
  distinct : (s.store.entries.map Prod.fst).Nodup
  /-- An entry stays as it is until the store is cleared. -/
  kept : ∀ later key d, .clear ∉ later → s.store.get? key = some d →
    (s.after later).store.get? key = some d
  /-- What is got under a key is what a step took in for it after the store was last cleared, when
  the key was not present and there was room. -/
  get : ∀ key, ∃ found, s.step (.get key) = (.found found, s) ∧
    ∀ d, found = some d ↔ ∃ before step later, past = before ++ step :: later ∧ .clear ∉ later ∧
      ((start capacity).after before).Stores step key d
  /-- A key is contained if something is got under it. -/
  contains : ∀ key, ∃ found, s.step (.contains key) = (.present found, s) ∧
    (found = true ↔ ∃ d, s.store.get? key = some d)
  /-- Putting succeeds if the key is present afterwards, which is so if it was before or there was
  room. -/
  put : ∀ key d, ∃ taken s', s.step (.put key d) = (.present taken, s') ∧
    (taken = true ↔ ∃ x, s'.store.get? key = some x) ∧
    (taken = true ↔ (∃ x, s.store.get? key = some x) ∨ s.store.size < capacity)
  /-- Clearing drops all entries and says how many there were. -/
  clear : ∃ s', s.step .clear = (.cleared s.store.size, s') ∧ s'.store.size = 0 ∧
    ∀ key, s'.store.get? key = none
  /-- A query gives the descriptor that is present under its trimmed text. -/
  present : ∀ text d, trim text.toList ≠ [] → (trim text.toList).length ≤ maxLength →
    s.store.get? (.ofList (trim text.toList)) = some d →
      ∃ first s', s.step (.parse (.text text)) = (.parsed d first, s') ∧ s'.store = s.store
  /-- If there is none, a query gives what its trimmed text is read as, and this is taken in if
  there is room. -/
  absent : ∀ text d, trim text.toList ≠ [] → (trim text.toList).length ≤ maxLength →
    s.store.get? (.ofList (trim text.toList)) = none →
    Descriptor.read (trim text.toList) = .ok d →
      ∃ first s', s.step (.parse (.text text)) = (.parsed d first, s') ∧
        s'.store.entries =
          if s.store.size < capacity then s.store.entries ++ [(.ofList (trim text.toList), d)]
          else s.store.entries
  /-- If its trimmed text cannot be read, a query is refused for the cause of that. -/
  malformed : ∀ text cause, trim text.toList ≠ [] → (trim text.toList).length ≤ maxLength →
    s.store.get? (.ofList (trim text.toList)) = none →
    Descriptor.read (trim text.toList) = .error cause →
      ∃ s', s.step (.parse (.text text)) =
        (.failed (refusal (.text text) (.ofList (trim text.toList)) cause), s')
  /-- What is not a text, is blank or is too long is refused, whatever is present. -/
  invalid : ∀ query, (∀ text, query = .text text →
      trim text.toList = [] ∨ (trim text.toList).length > maxLength) →
    ∃ cause s', s.step (.parse query) = (.failed (.refused cause query), s')
  /-- A query that is refused leaves the store as it was. -/
  refused : ∀ query f s', s.step (.parse query) = (.failed f, s') → s'.store = s.store

theorem store_of_parse_failed {s s' : Session} {query : Value} {f : Failure}
    (h : s.step (.parse query) = (.failed f, s')) : s'.store = s.store := by
  have hanswer : (s.parse query).1 = .failed f := congrArg Prod.fst h
  rw [show s' = (s.step (.parse query)).2 from congrArg Prod.snd h.symm]
  refine store_step_of_not_offers (fun key d hoffers => ?_) (fun hclear => nomatch hclear)
  cases hoffers with
  | parse hkey hd =>
    cases hget : s.store.get? key with
    | some x =>
      obtain ⟨⟨first, hparsed⟩, -⟩ := parse_of_present hkey hget
      cases hparsed.symm.trans hanswer
    | none =>
      obtain ⟨⟨first, hparsed⟩, -⟩ := parse_of_absent hkey hget hd
      cases hparsed.symm.trans hanswer

/-- **The law of a session.** Take a store of any capacity, empty at first, and any steps of a
session on it: queries that are read or refused, descriptors that are put in, keys that are looked
for, and clearings, in any order. Then the law holds of the session, and each step of a run answers
what it answers after the steps before it. -/
theorem lawful_after (capacity : Int) (past : List Step) :
    let s := (start capacity).after past
    Lawful capacity past s ∧ ∀ step later,
      ((start capacity).run (past ++ step :: later))[past.length]? =
        some ((s.step step).1, (s.step step).2.store.size) := by
  intro s
  have hcapacity : s.store.capacity = capacity := capacity_after _ past
  refine ⟨{
    bounded := hcapacity ▸ s.store.bounded
    distinct := s.store.distinct
    kept := fun later key d hclear hd => get?_after_iff.2 (.inl ⟨hclear, hd⟩)
    get := fun key => ⟨s.store.get? key, rfl, fun d => ?_⟩
    contains := fun key => ⟨s.store.contains key, rfl, Cache.contains_iff⟩
    put := fun key d =>
      ⟨(s.store.put key d).1.succeeds, _, rfl, Cache.succeeds_put_iff_contains, ?_⟩
    clear := ⟨_, rfl, rfl, fun key => rfl⟩
    present := fun text d hblank hlong hd => ?_
    absent := fun text d hblank hlong habsent hd => ?_
    malformed := fun text cause hblank hlong habsent hcause => ?_
    invalid := fun query h => ?_
    refused := fun query f s' h => store_of_parse_failed h }, getElem?_run _ past⟩
  · -- Nothing is found at the start, so whatever is found now has been taken in by a step.
    have hstart : (start capacity).store.get? key = none := rfl
    simp [s, get?_after_iff, hstart]
  · rw [Cache.succeeds_put_iff, hcapacity]
  · obtain ⟨⟨first, hanswer⟩, hstore⟩ := parse_of_present (trimmedText_text hblank hlong) hd
    exact ⟨first, _, Prod.ext hanswer rfl, hstore⟩
  · have hread : Descriptor.read (String.ofList (trim text.toList)).toList = .ok d := by
      rwa [String.toList_ofList]
    obtain ⟨⟨first, hanswer⟩, hstore⟩ :=
      parse_of_absent (trimmedText_text hblank hlong) habsent hread
    refine ⟨first, _, Prod.ext hanswer rfl, ?_⟩
    rw [← hcapacity, show ((s.step (.parse (.text text))).2.store = _) from hstore,
      Cache.entries_put_of_get?_eq_none habsent]
  · have hread : Descriptor.read (String.ofList (trim text.toList)).toList = .error cause := by
      rwa [String.toList_ofList]
    exact ⟨_, Prod.ext (parse_of_malformed (trimmedText_text hblank hlong) habsent hread).1 rfl⟩
  · obtain ⟨cause, hcause⟩ := exists_trimmedText_eq_error h
    exact ⟨cause, _, Prod.ext (parse_of_invalid hcause).1 rfl⟩

end Session

end Extraction.Query
