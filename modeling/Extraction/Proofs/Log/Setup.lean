import Extraction.Log.Channel
import Mathlib.Data.List.Basic

/-!
# Channels that are set up several times

A channel gets its outlets when it is set up for the first time. Setting it up again moves only its
level and those of its outlets, so that no outlet is put up twice and none keeps an old level. A
level that has no meaning is refused before any channel is looked at. What has become of a channel
after many requests is therefore decided by those for its own name whose levels have a meaning: the
first of them says what the outlets write to, the last of them says the level.

## Main definitions

* `Log.Level.IsUnknown` : a value that stands for no level.
* `Log.Request` : a request to set up a channel.
* `Log.Channels.after` : the channels after several requests.
* `Log.settings` : what the requests for one channel that are not refused ask for.

## Main results

* `Log.Channels.channel_setUp` : what one request does to the channels.
* `Log.Channels.channel_after` : a channel after several requests.
* `Log.Channels.lawful_setUp` : the law of setting up channels.
-/

namespace Extraction.Log

namespace Level

/-- A value stands for no level: it is neither an integer nor a truth value, and its text, without
the blanks around it and in capital letters, is no name of a level. -/
def IsUnknown (v : Value) : Prop :=
  (∀ n, v ≠ .int n) ∧ (∀ b, v ≠ .bool b) ∧
    String.ofList (Text.upper (Text.trim v.written.toList)) ∉ named.map Prod.fst

theorem ofName?_eq_none_iff {s : String} :
    ofName? s = none ↔ String.ofList (Text.upper (Text.trim s.toList)) ∉ named.map Prod.fst := by
  rw [ofName?, Option.map_eq_none_iff, List.lookup_eq_none_iff, List.mem_map]
  constructor
  · rintro h ⟨e, he, hkey⟩
    simpa [hkey] using h e he
  · intro h e he
    simpa using fun hkey : _ = e.1 => h ⟨e, he, hkey.symm⟩

/-- The only reason to refuse a level is that it is unknown. -/
theorem resolve_error_iff {v : Value} {f : Fault} :
    resolve v = .error f ↔ IsUnknown v ∧ f = .unknownLevel v := by
  unfold resolve IsUnknown
  split
  · simp
  · simp
  · rename_i hint hbool
    rw [← ofName?_eq_none_iff]
    cases ofName? v.written with
    | none => exact ⟨fun h => ⟨⟨hint, hbool, rfl⟩, (Except.error.inj h).symm⟩, fun h => by rw [h.2]⟩
    | some level => simp

end Level

/-! ### One request -/

namespace Channel

theorem outlets_setUp_of_nil {c : Channel} (h : c.outlets = []) (level : Level)
    (file : Option String) :
    c.setUp level file = { c with level, outlets := (targets file).map fun t => ⟨t, level⟩ } := by
  rw [setUp, h]

/-- A channel with outlets keeps what they write to, whatever file is asked for. -/
theorem setUp_of_ne_nil {c : Channel} (h : c.outlets ≠ []) (level : Level) (file : Option String) :
    c.setUp level file =
      { c with level, outlets := c.outlets.map fun o => { o with level } } := by
  unfold setUp
  split
  · rename_i hnil
    exact absurd hnil h
  · rfl

theorem targets_ne_nil (file : Option String) : targets file ≠ [] := by
  unfold targets
  split
  · split <;> simp
  · simp

end Channel

namespace Channels

theorem name_channel (cs : Channels) (name : String) : (cs.channel name).name = name := by
  unfold channel
  cases h : cs.all.find? fun c => c.name == name with
  | none => rfl
  | some c => simpa using List.find?_some h

/-- A channel that is put in is found under its name, and under any other name what was found
before. -/
theorem channel_put (cs : Channels) (c : Channel) (name : String) :
    (cs.put c).channel name = if c.name = name then c else cs.channel name := by
  simp only [channel, put]
  induction cs.all with
  | nil => by_cases h : c.name = name <;> simp [insert, h]
  | cons d rest ih =>
    by_cases hd : d.name = c.name
    · by_cases h : c.name = name <;> simp [insert, hd, h]
    · by_cases h : d.name = name
      · have hc : ¬c.name = name := fun hc => hd (h.trans hc.symm)
        rw [insert, if_neg hd]
        simp [h, hc]
      · simpa [insert, hd, h] using ih

/-- A request changes the channel of its name, if its level has a meaning, and no other channel. -/
theorem channel_setUp (cs : Channels) (other : String) (v : Value) (file : Option String)
    (name : String) :
    (cs.setUp other v file).2.channel name =
      match Level.resolve v with
      | .ok level => if other = name then (cs.channel name).setUp level file else cs.channel name
      | .error _ => cs.channel name := by
  unfold setUp
  cases Level.resolve v with
  | error f => rfl
  | ok level =>
    have hname : ((cs.channel other).setUp level file).name = other := cs.name_channel other
    simp only [channel_put, hname]
    split_ifs with h
    · rw [h]
    · rfl

end Channels

/-! ### Several requests -/

/-- A request to set up a channel. -/
structure Request where
  /-- The name of the channel. -/
  name : String
  /-- What is to stand for its level. -/
  level : Value
  /-- The file to which it is to write besides. -/
  file : Option String := none

namespace Channels

/-- The channels after several requests, refused ones among them. -/
def after (cs : Channels) (requests : List Request) : Channels :=
  requests.foldl (fun cs r => (cs.setUp r.name r.level r.file).2) cs

end Channels

/-- What a request asks for, if it is for a channel and its level has a meaning. -/
def Request.setting? (name : String) (r : Request) : Option (Level × Option String) :=
  match Level.resolve r.level with
  | .ok level => if r.name = name then some (level, r.file) else none
  | .error _ => none

/-- What the requests for a channel ask for, without those that are refused. -/
def settings (name : String) (requests : List Request) : List (Level × Option String) :=
  requests.filterMap (Request.setting? name)

namespace Channels

/-- A channel after several requests is set up by those that are for it and are not refused. -/
theorem channel_after (cs : Channels) (requests : List Request) (name : String) :
    (cs.after requests).channel name =
      (settings name requests).foldl (fun c s => c.setUp s.1 s.2) (cs.channel name) := by
  induction requests generalizing cs with
  | nil => rfl
  | cons r rest ih =>
    have hrest := ih (cs.setUp r.name r.level r.file).2
    have hsettings : settings name (r :: rest) =
        (r.setting? name).toList ++ settings name rest := by
      cases h : r.setting? name <;> simp [settings, h]
    rw [channel_setUp] at hrest
    rw [after, List.foldl_cons, ← after, hrest, hsettings, List.foldl_append, Request.setting?]
    cases Level.resolve r.level with
    | error f => rfl
    | ok level => by_cases hname : r.name = name <;> simp [hname]

end Channels

/-- A channel with outlets goes through several settings with the same outlets, at the level of the
last one. -/
theorem Channel.foldl_setUp {c : Channel} (h : c.outlets ≠ [])
    (later : List (Level × Option String)) (s : Level × Option String) :
    (later ++ [s]).foldl (fun c s => c.setUp s.1 s.2) c =
      { c with level := s.1, outlets := c.outlets.map fun o => { o with level := s.1 } } := by
  induction later generalizing c with
  | nil => exact setUp_of_ne_nil h s.1 s.2
  | cons t later ih =>
    have hset := setUp_of_ne_nil h t.1 t.2
    have hne : (c.setUp t.1 t.2).outlets ≠ [] := by simp [hset, h]
    rw [List.cons_append, List.foldl_cons, ih hne, hset]
    simp

/-- A channel without outlets gets those of the first setting, at the level of the last one. -/
theorem Channel.foldl_setUp_of_nil {c : Channel} (h : c.outlets = [])
    {first last : Level × Option String} {all : List (Level × Option String)}
    (hfirst : all.head? = some first) (hlast : all.getLast? = some last) :
    all.foldl (fun c s => c.setUp s.1 s.2) c =
      { c with level := last.1, outlets := (targets first.2).map fun t => ⟨t, last.1⟩ } := by
  obtain ⟨later, rfl⟩ : ∃ later, all = first :: later := ⟨_, List.eq_cons_of_mem_head? hfirst⟩
  have hset := outlets_setUp_of_nil h first.1 first.2
  rcases List.eq_nil_or_concat later with rfl | ⟨middle, s, rfl⟩
  · obtain rfl : first = last := by simpa using hlast
    exact hset
  · obtain rfl : s = last := by
      rwa [List.concat_eq_append, ← List.cons_append, List.getLast?_concat, Option.some.injEq]
        at hlast
    have hne : (c.setUp first.1 first.2).outlets ≠ [] := by simp [hset, targets_ne_nil]
    rw [List.foldl_cons, List.concat_eq_append, foldl_setUp hne, hset]
    simp

/-! ### The law -/

namespace Channels

/-- A request for a level without a meaning changes nothing. -/
theorem setUp_of_isUnknown {v : Value} (h : Level.IsUnknown v) (cs : Channels) (name : String)
    (file : Option String) : cs.setUp name v file = (.error (.unknownLevel v), cs) := by
  rw [setUp, Level.resolve_error_iff.2 ⟨h, rfl⟩]

/-- Any other request gives the channel of its name as it is afterwards. -/
theorem setUp_of_not_isUnknown {v : Value} (h : ¬Level.IsUnknown v) (cs : Channels)
    (name : String) (file : Option String) :
    (cs.setUp name v file).1 = .ok ((cs.setUp name v file).2.channel name) := by
  rw [channel_setUp, setUp]
  cases hlevel : Level.resolve v with
  | error f => exact absurd (Level.resolve_error_iff.1 hlevel).1 h
  | ok level => exact congrArg Except.ok (if_pos rfl).symm

/-- What a channel without outlets has after several requests. -/
theorem outlets_after {start : Channels} {name : String}
    (hstart : (start.channel name).outlets = []) {requests : List Request}
    {first last : Level × Option String}
    (hfirst : (settings name requests).head? = some first)
    (hlast : (settings name requests).getLast? = some last) :
    (start.after requests).channel name =
      ⟨name, last.1, (Channel.targets first.2).map fun t => ⟨t, last.1⟩⟩ := by
  rw [channel_after, Channel.foldl_setUp_of_nil hstart hfirst hlast, name_channel]

/-- **Setting up channels several times.** Take any channels without outlets, and any requests to
set up channels, of which some may be refused. Whatever request follows, one for an unknown level
fails as a wrong value and leaves all channels as they are, any other one gives the channel of its
name as it is afterwards, and no request changes a channel of another name. A channel that no
request has set up is as it was at the start. A channel that has been set up has a console outlet,
one more for the file of the first request that set it up, if that named one, and no others; it has
the level of the last request that set it up, and so have its outlets. -/
theorem lawful_setUp (start : Channels) (hstart : ∀ name, (start.channel name).outlets = [])
    (requests : List Request) :
    (∀ r : Request, Level.IsUnknown r.level →
        ∃ f, (start.after requests).setUp r.name r.level r.file = (.error f, start.after requests) ∧
          f = .unknownLevel r.level ∧ f.kind = .value) ∧
      (∀ r : Request, ¬Level.IsUnknown r.level →
        ((start.after requests).setUp r.name r.level r.file).1 =
          .ok (((start.after requests).setUp r.name r.level r.file).2.channel r.name)) ∧
      (∀ (r : Request) (name : String), r.name ≠ name →
        ((start.after requests).setUp r.name r.level r.file).2.channel name =
          (start.after requests).channel name) ∧
      ∀ name,
        (settings name requests = [] →
          (start.after requests).channel name = start.channel name) ∧
        ∀ first last, (settings name requests).head? = some first →
          (settings name requests).getLast? = some last →
          ((start.after requests).channel name).level = last.1 ∧
            ((start.after requests).channel name).outlets =
              ⟨.console, last.1⟩ ::
                (first.2.filter (· ≠ "")).toList.map fun file => ⟨.file file, last.1⟩ := by
  refine ⟨fun r hr => ⟨_, setUp_of_isUnknown hr _ _ _, rfl, rfl⟩,
    fun r hr => setUp_of_not_isUnknown hr _ _ _, fun r name hname => ?_,
    fun name => ⟨fun hnone => ?_, fun first last hfirst hlast => ?_⟩⟩
  · rw [channel_setUp]
    cases Level.resolve r.level with
    | error f => rfl
    | ok level => exact if_neg hname
  · rw [channel_after, hnone]
    rfl
  · rw [outlets_after (hstart name) hfirst hlast]
    refine ⟨rfl, ?_⟩
    cases first.2 with
    | none => rfl
    | some file => by_cases hfile : file = "" <;> simp [Channel.targets, hfile, Option.filter]

/-- Two channels are set up several times, and then one of them is requested at an unknown level and
at a known one. -/
theorem lawful_setUp_twice :
    let requests : List Request :=
      [⟨"a", .text " debug ", none⟩, ⟨"b", .int 5, some "x.log"⟩, ⟨"a", .text "loud", none⟩,
        ⟨"b", .text "Error", some "y.log"⟩, ⟨"a", .int 30, some "z.log"⟩]
    (∀ name, (channel {} name).outlets = []) ∧
      ((after {} requests).channel "a").outlets = [⟨.console, .number 30⟩] ∧
      ((after {} requests).channel "b").outlets =
        [⟨.console, .number 40⟩, ⟨.file "x.log", .number 40⟩] ∧
      (after {} requests).channel "c" = { name := "c" } ∧
      Level.IsUnknown (.text "loud") ∧
      ((after {} requests).setUp "a" (.text "loud") none).2 = after {} requests ∧
      ((after {} requests).setUp "a" (.int 0) none).2.channel "b" =
        (after {} requests).channel "b" := by
  intro requests
  have hstart : ∀ name, (channel {} name).outlets = [] := fun _ => rfl
  have hunknown : Level.IsUnknown (.text "loud") := ⟨nofun, nofun, by decide +kernel⟩
  obtain ⟨hrefused, -, hframe, hlaw⟩ := lawful_setUp {} hstart requests
  obtain ⟨f, hsame, -⟩ : ∃ f, (after {} requests).setUp "a" (.text "loud") none =
      (.error f, after {} requests) ∧ _ := hrefused ⟨"a", .text "loud", none⟩ hunknown
  refine ⟨hstart, ?_, ?_, ?_, hunknown, ?_, ?_⟩
  · exact ((hlaw "a").2 (.number 10, none) (.number 30, some "z.log") (by decide +kernel)
      (by decide +kernel)).2
  · exact ((hlaw "b").2 (.number 5, some "x.log") (.number 40, some "y.log") (by decide +kernel)
      (by decide +kernel)).2
  · exact (hlaw "c").1 (by decide +kernel)
  · rw [hsame]
  · exact hframe ⟨"a", .int 0, none⟩ "b" (by decide)

end Channels

end Extraction.Log
