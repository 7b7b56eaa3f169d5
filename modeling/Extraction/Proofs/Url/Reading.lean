import Extraction.Proofs.Evaluation.Result
import Extraction.Url
import Mathlib.Data.List.TakeWhile

/-!
# Reading what was written

An address that was read keeps its parts apart: no part holds a sign that would end it. Such an
address, with a scheme of the web and a host, can be written and read again. Only the start of its
path may have to be supplied, which writing does: so the address that is read may differ from the
one that was written, but it is written in the same way.

## Main definitions

* `Url.Apart` : no part of an address holds a sign that would end it.
* `Url.IsWeb` : the schemes of the web.

## Main results

* `Url.apart_of_read` : an address that was read keeps its parts apart.
* `Url.read_write`, `Url.write_rooted` : an address with a host can be read after it was written,
  and the address that is read is written in the same way.
-/

namespace Extraction.Url

/-! ### Parts behind their signs -/

/-- A part behind the sign that announces it; where there is no part, there is no sign. -/
def tagged (sign : Char) (part : List Char) : List Char :=
  if part.isEmpty then [] else sign :: part

section Tagged

variable {sign : Char} {before : List Char}

theorem mem_tagged {c : Char} {part : List Char} (h : c ∈ tagged sign part) :
    c = sign ∨ c ∈ part := by
  unfold tagged at h
  split_ifs at h
  · cases h
  · exact List.mem_cons.1 h

theorem takeWhile_append_tagged (h : sign ∉ before) (part : List Char) :
    (before ++ tagged sign part).takeWhile (· ≠ sign) = before := by
  have hbefore (c : Char) (hc : c ∈ before) : decide (c ≠ sign) = true :=
    decide_eq_true fun heq => h (heq ▸ hc)
  rw [List.takeWhile_append_of_pos hbefore, tagged]
  split_ifs
  · rw [List.takeWhile_nil, List.append_nil]
  · rw [List.takeWhile_cons_of_neg (by simp), List.append_nil]

theorem drop_dropWhile_append_tagged (h : sign ∉ before) (part : List Char) :
    ((before ++ tagged sign part).dropWhile (· ≠ sign)).drop 1 = part := by
  have hbefore (c : Char) (hc : c ∈ before) : decide (c ≠ sign) = true :=
    decide_eq_true fun heq => h (heq ▸ hc)
  rw [List.dropWhile_append_of_pos hbefore, tagged]
  split_ifs with hpart
  · rw [List.isEmpty_iff.1 hpart]
    rfl
  · rw [List.dropWhile_cons_of_neg (by simp)]
    rfl

theorem eq_of_mem_head?_tagged {c : Char} {part : List Char} (h : c ∈ (tagged sign part).head?) :
    c = sign := by
  unfold tagged at h
  split_ifs at h
  · cases h
  · exact (Option.some.inj h).symm

/-- What follows the first sign in a text is part of the text. -/
theorem mem_of_mem_drop_dropWhile {p : Char → Bool} {c : Char} {s : List Char}
    (h : c ∈ (s.dropWhile p).drop 1) : c ∈ s :=
  (List.dropWhile_suffix p).subset (List.mem_of_mem_drop h)

theorem notMem_takeWhile (sign : Char) (s : List Char) : sign ∉ s.takeWhile (· ≠ sign) := by
  intro h
  have hne := List.mem_takeWhile_imp h
  simp at hne

end Tagged

/-! ### The last part of a path -/

/-- The last part of a path. -/
def lastSegment (path : List Char) : List Char :=
  (path.reverse.takeWhile (· ≠ '/')).reverse

/-- Whether a text ends with a slash or is empty: what follows it is a new part of the path. -/
def Closed (s : List Char) : Prop :=
  ∀ c ∈ s.getLast?, c = '/'

theorem notMem_lastSegment (path : List Char) : '/' ∉ lastSegment path :=
  fun h => notMem_takeWhile '/' path.reverse (List.mem_reverse.1 h)

theorem lastSegment_eq {head tail : List Char} (hhead : Closed head) (htail : '/' ∉ tail) :
    lastSegment (head ++ tail) = tail := by
  have hkept (c : Char) (hc : c ∈ tail.reverse) : decide (c ≠ '/') = true :=
    decide_eq_true fun heq => htail (heq ▸ List.mem_reverse.1 hc)
  have hend : head.reverse.takeWhile (· ≠ '/') = [] := by
    rw [Closed, List.getLast?_eq_head?_reverse] at hhead
    cases hrev : head.reverse with
    | nil => rfl
    | cons c cs =>
      rw [hrev] at hhead
      exact List.takeWhile_cons_of_neg (by simp [hhead c rfl])
  rw [lastSegment, List.reverse_append, List.takeWhile_append_of_pos hkept, hend, List.append_nil,
    List.reverse_reverse]

/-- A path is its last part behind a text that ends with a slash or is empty. -/
theorem exists_lastSegment (path : List Char) :
    ∃ head, Closed head ∧ path = head ++ lastSegment path := by
  refine ⟨(path.reverse.dropWhile (· ≠ '/')).reverse, ?_, ?_⟩
  · intro c hc
    rw [List.getLast?_reverse] at hc
    have hall := List.head?_dropWhile_not (fun c => decide (c ≠ '/')) path.reverse
    rw [hc] at hall
    simpa using hall
  · rw [lastSegment, ← List.reverse_append, List.takeWhile_append_dropWhile, List.reverse_reverse]

theorem Closed.append {s s' : List Char} (h : Closed s) (h' : Closed s') : Closed (s ++ s') := by
  intro c hc
  rw [List.getLast?_append, Option.mem_def, Option.or_eq_some_iff] at hc
  exact hc.elim (h' c) fun hc => h c hc.2

/-- What stands before the start of a part makes no difference to the last one. -/
theorem lastSegment_append {head : List Char} (hhead : Closed head) (path : List Char) :
    lastSegment (head ++ path) = lastSegment path := by
  obtain ⟨head', hhead', heq⟩ := exists_lastSegment path
  have hwhole : head ++ path = (head ++ head') ++ lastSegment path := by
    rw [List.append_assoc, ← heq]
  rw [hwhole, lastSegment_eq (hhead.append hhead') (notMem_lastSegment path)]

theorem splitParams_append {head tail : List Char} (hhead : Closed head) (htail : '/' ∉ tail) :
    splitParams (head ++ tail) =
      (head ++ tail.takeWhile (· ≠ ';'), (tail.dropWhile (· ≠ ';')).drop 1) := by
  have hlast : ((head ++ tail).reverse.takeWhile (· ≠ '/')).reverse = tail :=
    lastSegment_eq hhead htail
  have hfirst : (head ++ tail).take ((head ++ tail).length - tail.length) = head := by
    rw [List.length_append, Nat.add_sub_cancel]
    exact List.take_left
  simp only [splitParams, hlast, hfirst]

/-- A path and its parameters are told apart again. -/
theorem splitParams_append_tagged {path params : List Char} (hpath : ';' ∉ lastSegment path)
    (hparams : '/' ∉ params) : splitParams (path ++ tagged ';' params) = (path, params) := by
  obtain ⟨head, hhead, heq⟩ := exists_lastSegment path
  have htail : '/' ∉ lastSegment path ++ tagged ';' params := by
    intro h
    rcases List.mem_append.1 h with h | h
    · exact notMem_lastSegment path h
    · rcases mem_tagged h with h | h
      · cases h
      · exact hparams h
  have hwhole : path ++ tagged ';' params = head ++ (lastSegment path ++ tagged ';' params) := by
    rw [← List.append_assoc, ← heq]
  rw [hwhole, splitParams_append hhead htail, takeWhile_append_tagged hpath,
    drop_dropWhile_append_tagged hpath, ← heq]

/-- A path before its parameters has none in its last part, and the parameters do not go beyond this
part. -/
theorem splitParams_apart (path : List Char) :
    ';' ∉ lastSegment (splitParams path).1 ∧ '/' ∉ (splitParams path).2 := by
  obtain ⟨head, hhead, heq⟩ := exists_lastSegment path
  have hlast := notMem_lastSegment path
  rw [heq, splitParams_append hhead hlast]
  refine ⟨?_, fun h => hlast (mem_of_mem_drop_dropWhile h)⟩
  rw [lastSegment_eq hhead fun h => hlast ((List.takeWhile_sublist _).subset h)]
  exact notMem_takeWhile ';' _

theorem mem_of_mem_splitParams {c : Char} {path : List Char}
    (h : c ∈ (splitParams path).1 ∨ c ∈ (splitParams path).2) : c ∈ path := by
  obtain ⟨head, hhead, heq⟩ := exists_lastSegment path
  have hsplit := splitParams_append hhead (notMem_lastSegment path)
  rw [← heq] at hsplit
  rw [hsplit] at h
  rw [heq, List.mem_append]
  rcases h with h | h
  · exact (List.mem_append.1 h).imp_right fun h => (List.takeWhile_sublist _).subset h
  · exact .inr (mem_of_mem_drop_dropWhile h)

/-! ### The steps of reading -/

/-- The schemes of the web. -/
def IsWeb (scheme : List Char) : Prop :=
  scheme = ['h', 't', 't', 'p'] ∨ scheme = ['h', 't', 't', 'p', 's']

theorem IsWeb.ne_nil {scheme : List Char} (h : IsWeb scheme) : scheme ≠ [] := by
  rcases h with rfl | rfl <;> nofun

/-- The host after a scheme, and what follows it. -/
def splitHost (rest : List Char) : List Char × List Char :=
  match rest with
  | '/' :: '/' :: after =>
    (after.takeWhile fun c => !endsHost c, after.dropWhile fun c => !endsHost c)
  | _ => ([], rest)

/-- An address from its scheme, its host and what follows them. -/
def assemble (scheme host rest : List Char) : Url :=
  let whole := (rest.takeWhile (· ≠ '#')).takeWhile (· ≠ '?')
  let (path, params) := if isAmong paramSchemes scheme then splitParams whole else (whole, [])
  { scheme, host, path, params
    query := ((rest.takeWhile (· ≠ '#')).dropWhile (· ≠ '?')).drop 1
    fragment := (rest.dropWhile (· ≠ '#')).drop 1 }

theorem read_eq_bind (given s : List Char) :
    read given s = (do
      let (scheme, rest) := (readScheme? (cleaned s)).getD (given, cleaned s)
      let (host, after) := splitHost rest
      checkHost host
      return assemble scheme host after) := by
  unfold read assemble splitHost
  rfl

/-- An address is read in three steps: the scheme, the host, and the rest. -/
theorem read_eq_ok_iff {given s : List Char} {u : Url} :
    read given s = .ok u ↔ ∃ scheme rest host after,
      (readScheme? (cleaned s)).getD (given, cleaned s) = (scheme, rest) ∧
        splitHost rest = (host, after) ∧ checkHost host = .ok () ∧
          assemble scheme host after = u := by
  rw [read_eq_bind]
  constructor
  · intro h
    obtain ⟨⟨⟩, hchecked, h⟩ := Result.bind_eq_ok_iff.1 h
    exact ⟨_, _, _, _, rfl, rfl, hchecked, Except.ok.inj h⟩
  · rintro ⟨scheme, rest, host, after, hspelled, hlocated, hchecked, rfl⟩
    simp only [hspelled, hlocated, hchecked]
    rfl

/-! ### Reading keeps the parts apart -/

/-- Whether a character is left out of every address. -/
def isBreak (c : Char) : Bool :=
  c = '\t' || c = '\r' || c = '\n'

/-- Whether a text has no line breaks or tabs in it. -/
def IsPlain (s : List Char) : Prop :=
  ∀ c ∈ s, isBreak c = false

theorem IsPlain.append {s s' : List Char} (h : IsPlain s) (h' : IsPlain s') : IsPlain (s ++ s') :=
  fun c hc => (List.mem_append.1 hc).elim (h c) (h' c)

theorem IsPlain.cons {s : List Char} (h : IsPlain s) {c : Char} (hc : isBreak c = false) :
    IsPlain (c :: s) :=
  List.forall_mem_cons.2 ⟨hc, h⟩

theorem IsPlain.tagged {part : List Char} (h : IsPlain part) {sign : Char}
    (hsign : isBreak sign = false) : IsPlain (tagged sign part) := by
  intro c hc
  rcases mem_tagged hc with rfl | hc
  · exact hsign
  · exact h c hc

/-- No part of an address holds a sign that would end it, or a line break. -/
structure Apart (u : Url) : Prop where
  /-- The host is well formed. -/
  checked : checkHost u.host = .ok ()
  /-- The host ends where it should. -/
  host : ∀ c ∈ u.host, endsHost c = false
  /-- The path ends where it should. -/
  path : '?' ∉ u.path ∧ '#' ∉ u.path
  /-- The last part of the path has no parameters in it. -/
  lastSegment : ';' ∉ Url.lastSegment u.path
  /-- The parameters belong to the last part of the path and end where they should. -/
  params : '/' ∉ u.params ∧ '?' ∉ u.params ∧ '#' ∉ u.params
  /-- The query ends where it should. -/
  query : '#' ∉ u.query
  /-- There are no line breaks in the host. -/
  plainHost : IsPlain u.host
  /-- There are none in the path. -/
  plainPath : IsPlain u.path
  /-- There are none in the parameters. -/
  plainParams : IsPlain u.params
  /-- There are none in the query. -/
  plainQuery : IsPlain u.query
  /-- There are none in the fragment. -/
  plainFragment : IsPlain u.fragment

theorem isAmong_paramSchemes {scheme : List Char} (h : IsWeb scheme) :
    isAmong paramSchemes scheme = true := by
  rcases h with rfl | rfl <;> decide

theorem assemble_of_isWeb {scheme : List Char} (h : IsWeb scheme) (host rest : List Char) :
    assemble scheme host rest =
      { scheme, host
        path := (splitParams ((rest.takeWhile (· ≠ '#')).takeWhile (· ≠ '?'))).1
        params := (splitParams ((rest.takeWhile (· ≠ '#')).takeWhile (· ≠ '?'))).2
        query := ((rest.takeWhile (· ≠ '#')).dropWhile (· ≠ '?')).drop 1
        fragment := (rest.dropWhile (· ≠ '#')).drop 1 } := by
  rw [assemble, if_pos (isAmong_paramSchemes h)]

theorem isPlain_cleaned (s : List Char) : IsPlain (cleaned s) := by
  intro c hc
  have hkept := (List.mem_filter.1 hc).2
  simpa [isBreak, not_or] using hkept

theorem mem_of_readScheme? {c : Char} {s scheme rest : List Char}
    (h : readScheme? s = some (scheme, rest)) (hc : c ∈ rest) : c ∈ s := by
  unfold readScheme? at h
  split at h
  case h_1 after hdrop =>
    split_ifs at h
    cases h
    exact (List.dropWhile_suffix isSchemeChar).subset (hdrop ▸ List.mem_cons_of_mem _ hc)
  case h_2 => cases h

theorem mem_of_mem_splitHost {c : Char} {rest : List Char}
    (h : c ∈ (splitHost rest).1 ∨ c ∈ (splitHost rest).2) : c ∈ rest := by
  unfold splitHost at h
  split at h
  case h_1 after =>
    refine List.mem_cons_of_mem _ (List.mem_cons_of_mem _ ?_)
    exact h.elim (fun h => (List.takeWhile_sublist _).subset h)
      fun h => (List.dropWhile_suffix _).subset h
  case h_2 => exact h.elim nofun id

theorem endsHost_of_mem_splitHost {c : Char} {rest : List Char} (h : c ∈ (splitHost rest).1) :
    endsHost c = false := by
  unfold splitHost at h
  split at h
  case h_1 after => simpa using List.mem_takeWhile_imp h
  case h_2 => cases h

/-- What follows the scheme in a text has no line breaks in it. -/
theorem isPlain_of_readScheme? {given s scheme rest : List Char}
    (h : (readScheme? (cleaned s)).getD (given, cleaned s) = (scheme, rest)) : IsPlain rest := by
  intro c hc
  cases hread : readScheme? (cleaned s) with
  | none =>
    rw [hread] at h
    cases h
    exact isPlain_cleaned s c hc
  | some spelled =>
    rw [hread] at h
    exact isPlain_cleaned s c (mem_of_readScheme? (hread.trans (congrArg some h)) hc)

theorem apart_assemble {scheme host after : List Char} (hscheme : IsWeb scheme)
    (hchecked : checkHost host = .ok ()) (hhost : ∀ c ∈ host, endsHost c = false)
    (hplainHost : IsPlain host) (hplain : IsPlain after) : Apart (assemble scheme host after) := by
  have hbefore {c : Char} (hc : c ∈ after.takeWhile (· ≠ '#')) : c ∈ after ∧ c ≠ '#' :=
    ⟨(List.takeWhile_sublist _).subset hc, by simpa using List.mem_takeWhile_imp hc⟩
  have hwhole {c : Char} (hc : c ∈ (after.takeWhile (· ≠ '#')).takeWhile (· ≠ '?')) :
      c ∈ after ∧ c ≠ '#' ∧ c ≠ '?' := by
    obtain ⟨hmem, hne⟩ := hbefore ((List.takeWhile_sublist _).subset hc)
    exact ⟨hmem, hne, by simpa using List.mem_takeWhile_imp hc⟩
  have hparts := splitParams_apart ((after.takeWhile (· ≠ '#')).takeWhile (· ≠ '?'))
  rw [assemble_of_isWeb hscheme]
  exact {
    checked := hchecked
    host := hhost
    path := ⟨fun hc => (hwhole (mem_of_mem_splitParams (.inl hc))).2.2 rfl,
      fun hc => (hwhole (mem_of_mem_splitParams (.inl hc))).2.1 rfl⟩
    lastSegment := hparts.1
    params := ⟨hparts.2, fun hc => (hwhole (mem_of_mem_splitParams (.inr hc))).2.2 rfl,
      fun hc => (hwhole (mem_of_mem_splitParams (.inr hc))).2.1 rfl⟩
    query := fun hc => (hbefore (mem_of_mem_drop_dropWhile hc)).2 rfl
    plainHost := hplainHost
    plainPath := fun c hc => hplain c (hwhole (mem_of_mem_splitParams (.inl hc))).1
    plainParams := fun c hc => hplain c (hwhole (mem_of_mem_splitParams (.inr hc))).1
    plainQuery := fun c hc => hplain c (hbefore (mem_of_mem_drop_dropWhile hc)).1
    plainFragment := fun c hc => hplain c (mem_of_mem_drop_dropWhile hc) }

/-- An address that was read keeps its parts apart. -/
theorem apart_of_read {given s : List Char} {u : Url} (h : read given s = .ok u)
    (hscheme : IsWeb u.scheme) : Apart u := by
  obtain ⟨scheme, rest, host, after, hspelled, hlocated, hchecked, rfl⟩ := read_eq_ok_iff.1 h
  have hplain := isPlain_of_readScheme? hspelled
  have hhost : host = (splitHost rest).1 := by rw [hlocated]
  have hafter : after = (splitHost rest).2 := by rw [hlocated]
  refine apart_assemble hscheme hchecked (fun c hc => ?_) (fun c hc => ?_) fun c hc => ?_
  · exact endsHost_of_mem_splitHost (hhost ▸ hc)
  · exact hplain c (mem_of_mem_splitHost (.inl (hhost ▸ hc)))
  · exact hplain c (mem_of_mem_splitHost (.inr (hafter ▸ hc)))

/-! ### Writing -/

/-- The path of an address with its parameters. -/
def wholePath (u : Url) : List Char :=
  u.path ++ tagged ';' u.params

/-- What stands after the host of an address. -/
def afterHost (u : Url) : List Char :=
  u.wholePath ++ tagged '?' u.query ++ tagged '#' u.fragment

/-- Whether the path of an address, if it has one, starts with a slash. -/
def isRooted (u : Url) : Bool :=
  u.wholePath.head?.all (· == '/')

/-- An address with a slash at the start of its path, if it has one. -/
def rooted (u : Url) : Url :=
  { u with path := if u.isRooted then u.path else '/' :: u.path }

section Write

variable {u : Url}

@[simp] theorem rooted_scheme : u.rooted.scheme = u.scheme := rfl

@[simp] theorem rooted_host : u.rooted.host = u.host := rfl

@[simp] theorem rooted_params : u.rooted.params = u.params := rfl

@[simp] theorem rooted_query : u.rooted.query = u.query := rfl

@[simp] theorem rooted_fragment : u.rooted.fragment = u.fragment := rfl

theorem rooted_of_isRooted (h : u.isRooted = true) : u.rooted = u := by
  rw [rooted, if_pos h]

/-- Only a path without a slash at its start is given one. -/
theorem wholePath_rooted :
    u.rooted.wholePath = if u.isRooted then u.wholePath else '/' :: u.wholePath := by
  unfold rooted wholePath
  split_ifs <;> rfl

theorem isRooted_rooted : u.rooted.isRooted = true := by
  rw [isRooted, wholePath_rooted]
  split_ifs with h
  · exact h
  · rfl

theorem rooted_rooted : u.rooted.rooted = u.rooted :=
  rooted_of_isRooted isRooted_rooted

theorem wholePath_eq :
    u.wholePath = if u.params.isEmpty then u.path else u.path ++ ';' :: u.params := by
  unfold wholePath tagged
  split_ifs
  · exact List.append_nil _
  · rfl

/-- Writing puts a slash at the start of a path after a host. -/
theorem write_eq (hscheme : u.scheme ≠ []) (hhost : u.host ≠ []) :
    u.write = u.scheme ++ ':' :: '/' :: '/' :: (u.host ++ u.rooted.afterHost) := by
  have hpath : u.rooted.wholePath =
      if !u.wholePath.isEmpty && u.wholePath.head? ≠ some '/' then '/' :: u.wholePath
      else u.wholePath := by
    rw [wholePath_rooted, isRooted]
    cases u.wholePath with
    | nil => rfl
    | cons c cs => by_cases h : c = '/' <;> simp [h]
  unfold write
  rw [← wholePath_eq]
  dsimp only
  rw [← hpath]
  simp [hscheme, hhost, afterHost, tagged]

theorem write_rooted (hscheme : u.scheme ≠ []) (hhost : u.host ≠ []) :
    u.rooted.write = u.write := by
  rw [write_eq hscheme hhost, write_eq (u := u.rooted) hscheme hhost, rooted_rooted, rooted_scheme,
    rooted_host]

end Write

/-! ### Reading what was written -/

theorem Apart.rooted {u : Url} (h : Apart u) : Apart u.rooted := by
  by_cases hrooted : u.isRooted
  · rwa [rooted_of_isRooted hrooted]
  · have hpath : u.rooted.path = '/' :: u.path := if_neg hrooted
    have hslash : Closed ['/'] := fun c hc => (Option.some.inj hc).symm
    exact {
      h with
      path := by
        rw [hpath]
        exact ⟨fun hc => h.path.1 ((List.mem_cons.1 hc).resolve_left (by decide)),
          fun hc => h.path.2 ((List.mem_cons.1 hc).resolve_left (by decide))⟩
      lastSegment := by
        rw [hpath, ← List.singleton_append, lastSegment_append hslash]
        exact h.lastSegment
      plainPath := by
        rw [hpath]
        exact h.plainPath.cons rfl }

theorem cleaned_eq {s : List Char} (hhead : ∀ c ∈ s.head?, 0x20 < c.toNat)
    (h : IsPlain s) : cleaned s = s := by
  have hstart : s.dropWhile (fun c => c.toNat ≤ 0x20) = s := by
    cases s with
    | nil => rfl
    | cons c cs => exact List.dropWhile_cons_of_neg (by simpa using hhead c rfl)
  rw [cleaned, hstart, List.filter_eq_self]
  intro c hc
  simpa [isBreak, not_or] using h c hc

theorem readScheme?_of_isWeb {scheme : List Char} (h : IsWeb scheme) (rest : List Char) :
    readScheme? (scheme ++ ':' :: rest) = some (scheme, rest) := by
  rcases h with rfl | rfl <;> rfl

theorem splitHost_append {host after : List Char} (hhost : ∀ c ∈ host, endsHost c = false)
    (hafter : ∀ c ∈ after.head?, endsHost c = true) :
    splitHost ('/' :: '/' :: (host ++ after)) = (host, after) := by
  have hkept (c : Char) (hc : c ∈ host) : (!endsHost c) = true := by
    rw [hhost c hc]
    rfl
  rw [splitHost, List.takeWhile_append_of_pos hkept, List.dropWhile_append_of_pos hkept]
  cases after with
  | nil => simp
  | cons c cs => simp [hafter c rfl]

theorem endsHost_of_mem_head?_afterHost {u : Url} (h : u.isRooted = true) {c : Char}
    (hc : c ∈ u.afterHost.head?) : endsHost c = true := by
  rw [afterHost, List.head?_append, List.head?_append, Option.mem_def, Option.or_eq_some_iff,
    Option.or_eq_some_iff] at hc
  rcases hc with (hc | ⟨-, hc⟩) | ⟨-, hc⟩
  · rw [isRooted, hc] at h
    rw [beq_iff_eq.1 h]
    rfl
  · rw [eq_of_mem_head?_tagged hc]
    rfl
  · rw [eq_of_mem_head?_tagged hc]
    rfl

theorem IsWeb.isPlain {scheme : List Char} (h : IsWeb scheme) : IsPlain scheme := by
  have hall : scheme.all (fun c => !isBreak c) = true := by
    rcases h with rfl | rfl <;> rfl
  intro c hc
  simpa using List.all_eq_true.1 hall c hc

/-- An address that keeps its parts apart is written without line breaks. -/
theorem Apart.isPlain_write {u : Url} (hscheme : IsWeb u.scheme) (hhost : u.host ≠ [])
    (h : Apart u) : IsPlain u.write := by
  have hpath : IsPlain u.rooted.wholePath := h.rooted.plainPath.append (h.plainParams.tagged rfl)
  have hafter : IsPlain u.rooted.afterHost :=
    (hpath.append (h.plainQuery.tagged rfl)).append (h.plainFragment.tagged rfl)
  have hlocated : IsPlain (':' :: '/' :: '/' :: (u.host ++ u.rooted.afterHost)) :=
    (((h.plainHost.append hafter).cons rfl).cons rfl).cons rfl
  rw [write_eq hscheme.ne_nil hhost]
  exact hscheme.isPlain.append hlocated

theorem cleaned_write {u : Url} (hscheme : IsWeb u.scheme) (hhost : u.host ≠ []) (h : Apart u) :
    cleaned u.write = u.write := by
  refine cleaned_eq (fun c hc => ?_) (h.isPlain_write hscheme hhost)
  rw [write_eq hscheme.ne_nil hhost] at hc
  rcases hscheme with hscheme | hscheme <;>
  · rw [hscheme] at hc
    cases hc
    decide

theorem assemble_afterHost {u : Url} (hscheme : IsWeb u.scheme) (h : Apart u) :
    assemble u.scheme u.host u.afterHost = u := by
  have hquestion : '?' ∉ u.wholePath := by
    intro hc
    rcases List.mem_append.1 hc with hc | hc
    · exact h.path.1 hc
    · exact h.params.2.1 ((mem_tagged hc).resolve_left (by decide))
  have hhash : '#' ∉ u.wholePath ++ tagged '?' u.query := by
    intro hc
    rcases List.mem_append.1 hc with hc | hc
    · rcases List.mem_append.1 hc with hc | hc
      · exact h.path.2 hc
      · exact h.params.2.2 ((mem_tagged hc).resolve_left (by decide))
    · exact h.query ((mem_tagged hc).resolve_left (by decide))
  rw [assemble_of_isWeb hscheme, afterHost, takeWhile_append_tagged hhash,
    takeWhile_append_tagged hquestion, drop_dropWhile_append_tagged hquestion,
    drop_dropWhile_append_tagged hhash, wholePath,
    splitParams_append_tagged h.lastSegment h.params.1]

/-- An address with a host can be read after it was written, and is the same but for a slash at the
start of its path. -/
theorem read_write {u : Url} (hscheme : IsWeb u.scheme) (hhost : u.host ≠ []) (h : Apart u)
    (given : List Char) : read given u.write = .ok u.rooted := by
  refine read_eq_ok_iff.2 ⟨u.scheme, '/' :: '/' :: (u.host ++ u.rooted.afterHost), u.host,
    u.rooted.afterHost, ?_, ?_, h.checked, ?_⟩
  · rw [cleaned_write hscheme hhost h, write_eq hscheme.ne_nil hhost, readScheme?_of_isWeb hscheme]
    rfl
  · exact splitHost_append h.host fun c hc => endsHost_of_mem_head?_afterHost isRooted_rooted hc
  · exact assemble_afterHost (u := u.rooted) hscheme h.rooted

end Extraction.Url
