import Extraction.Proofs.Text.Search
import Extraction.Proofs.Url.Reading

/-!
# Resolving a second time

An address that was resolved against a base of the web is not changed if it is resolved against the
same base again. Either it was left alone, and is left alone again, for its scheme is not that of
the base; or it now has a host. An address with a host keeps its path as it is, with all steps in
it, so what matters is that it can be read back from its text. That is so because the parts of a
resolved path are parts of the two paths from which it was made, and its last part is that of the
relative path, if any.

## Main definitions

* `Url.IsBase` : the texts of addresses of the web in normal form.

## Main results

* `Url.apart_resolve` : an address that was resolved keeps its parts apart.
* `Url.join_join` : resolving an address a second time changes nothing.
-/

namespace Extraction.Url

open Text

/-! ### The parts of a resolved path -/

section Steps

variable {part last : List Char} {parts done : List (List Char)}

theorem mem_resolveFrom (h : part ∈ resolveFrom done parts) : part ∈ done ∨ part ∈ parts := by
  induction parts generalizing done with
  | nil => exact .inl (List.mem_reverse.1 h)
  | cons first rest ih =>
    rw [resolveFrom] at h
    split_ifs at h
    · exact (ih h).imp List.mem_of_mem_drop (List.mem_cons_of_mem _)
    · exact (ih h).imp_right (List.mem_cons_of_mem _)
    · rcases ih h with h | h
      · rcases List.mem_cons.1 h with rfl | h
        · exact .inr List.mem_cons_self
        · exact .inl h
      · exact .inr (List.mem_cons_of_mem _ h)

/-- A last part that is no step is kept. -/
theorem getLast?_resolveFrom (h : parts.getLast? = some last) (hup : last ≠ ['.', '.'])
    (hstay : last ≠ ['.']) : (resolveFrom done parts).getLast? = some last := by
  induction parts generalizing done with
  | nil => cases h
  | cons first rest ih =>
    cases rest with
    | nil =>
      rw [show first = last from Option.some.inj h, resolveFrom, if_neg hup, if_neg hstay,
        resolveFrom, List.getLast?_reverse]
      rfl
    | cons next rest =>
      rw [List.getLast?_cons_cons] at h
      rw [resolveFrom]
      split_ifs
      · exact ih h
      · exact ih h
      · exact ih h

theorem mem_resolveSegments (h : part ∈ resolveSegments parts) : part = [] ∨ part ∈ parts := by
  have hfrom (h : part ∈ resolveFrom [] parts) : part = [] ∨ part ∈ parts :=
    .inr ((mem_resolveFrom h).resolve_left List.not_mem_nil)
  unfold resolveSegments at h
  dsimp only at h
  split at h
  · split_ifs at h
    · rcases List.mem_append.1 h with h | h
      · exact hfrom h
      · exact .inl (List.mem_singleton.1 h)
    · exact hfrom h
  · exact hfrom h

/-- The last part of a path after the steps in it are carried out is the one before, or empty. -/
theorem getLast?_resolveSegments (h : parts.getLast? = some last) :
    (resolveSegments parts).getLast? = some last ∨ (resolveSegments parts).getLast? = some [] := by
  unfold resolveSegments
  rw [h]
  dsimp only
  split_ifs with hstep
  · rw [List.getLast?_append]
    exact .inr rfl
  · rw [Bool.or_eq_true, not_or, decide_eq_true_iff, decide_eq_true_iff] at hstep
    exact .inl (getLast?_resolveFrom h hstep.2 hstep.1)

/-- Parts without the empty ones between the first and the last. -/
def thinned (parts : List (List Char)) : List (List Char) :=
  parts.take 1 ++ (parts.drop 1).dropLast.filter (fun p => !p.isEmpty) ++
    (parts.drop 1).getLast?.toList

theorem mem_of_mem_thinned (h : part ∈ thinned parts) : part ∈ parts := by
  rcases List.mem_append.1 h with h | h
  · rcases List.mem_append.1 h with h | h
    · exact List.mem_of_mem_take h
    · exact List.mem_of_mem_drop (List.dropLast_subset _ (List.mem_filter.1 h).1)
  · exact List.mem_of_mem_drop (List.mem_of_getLast? (Option.mem_toList.1 h))

theorem getLast?_thinned (parts : List (List Char)) :
    (thinned parts).getLast? = parts.getLast? := by
  cases parts with
  | nil => rfl
  | cons first rest =>
    rw [thinned, List.getLast?_append, List.getLast?_cons]
    simp only [List.drop_succ_cons, List.drop_zero]
    cases hlast : rest.getLast? with
    | none =>
      rw [List.getLast?_eq_none_iff.1 hlast]
      rfl
    | some last => rfl

/-- The parts of a base before its last one, or all of them if the last one is empty. -/
def keptParts (base : List Char) : List (List Char) :=
  let parts := splitOn ['/'] base
  if parts.getLast? = some [] then parts else parts.dropLast

theorem segments_eq (base path : List Char) :
    segments base path =
      if path.head? = some '/' then splitOn ['/'] path
      else thinned (keptParts base ++ splitOn ['/'] path) :=
  rfl

theorem mem_segments {base path : List Char} (h : part ∈ segments base path) :
    part ∈ splitOn ['/'] base ∨ part ∈ splitOn ['/'] path := by
  rw [segments_eq] at h
  split_ifs at h
  · exact .inr h
  · refine (List.mem_append.1 (mem_of_mem_thinned h)).imp_left fun h => ?_
    unfold keptParts at h
    dsimp only at h
    split_ifs at h
    · exact h
    · exact List.dropLast_subset _ h

/-- The last part of a path after the parts of the base is its own last part. -/
theorem getLast?_segments (base path : List Char) :
    (segments base path).getLast? = (splitOn ['/'] path).getLast? := by
  rw [segments_eq]
  split_ifs
  · rfl
  · rw [getLast?_thinned, List.getLast?_append_of_ne_nil _ (splitOn_ne_nil '/' [] path)]

end Steps

/-! ### The characters of a resolved path -/

theorem lastSegment_joinWith {parts : List (List Char)} (h : ∀ part ∈ parts, '/' ∉ part) :
    lastSegment (joinWith ['/'] parts) = parts.getLast?.getD [] := by
  induction parts with
  | nil => rfl
  | cons first rest ih =>
    cases rest with
    | nil =>
      have hclosed : Closed [] := nofun
      exact lastSegment_eq hclosed (h first List.mem_cons_self)
    | cons next rest =>
      have hclosed : Closed (first ++ ['/']) := by
        intro c hc
        rw [List.getLast?_append] at hc
        exact (Option.some.inj hc).symm
      rw [joinWith_cons (List.cons_ne_nil next rest), lastSegment_append hclosed,
        ih fun part hpart => h part (List.mem_cons_of_mem _ hpart), List.getLast?_cons_cons]

/-- The path of an address that was resolved against one of another path. -/
def resolvedPath (base path : List Char) : List Char :=
  let resolved := joinWith ['/'] (resolveSegments (segments base path))
  if resolved.isEmpty then ['/'] else resolved

section ResolvedPath

variable {base path : List Char}

theorem mem_of_mem_resolvedPath {c : Char} (h : c ∈ resolvedPath base path) :
    c = '/' ∨ c ∈ base ∨ c ∈ path := by
  unfold resolvedPath at h
  dsimp only at h
  split_ifs at h
  · exact .inl (List.mem_singleton.1 h)
  · rcases mem_joinWith h with h | ⟨part, hpart, hc⟩
    · exact .inl (List.mem_singleton.1 h)
    · rcases mem_resolveSegments hpart with rfl | hpart
      · cases hc
      · exact .inr ((mem_segments hpart).imp (mem_of_mem_splitOn · hc) (mem_of_mem_splitOn · hc))

theorem notMem_of_mem_resolveSegments {part : List Char}
    (h : part ∈ resolveSegments (segments base path)) : '/' ∉ part := by
  rcases mem_resolveSegments h with rfl | h
  · exact List.not_mem_nil
  · exact (mem_segments h).elim notMem_of_mem_splitOn notMem_of_mem_splitOn

/-- The last part of a resolved path is that of the path, or empty. -/
theorem lastSegment_resolvedPath (base path : List Char) :
    lastSegment (resolvedPath base path) = lastSegment path ∨
      lastSegment (resolvedPath base path) = [] := by
  have hpath : lastSegment path = (splitOn ['/'] path).getLast?.getD [] := by
    conv => lhs; rw [← joinWith_splitOn '/' [] path]
    exact lastSegment_joinWith fun _ => notMem_of_mem_splitOn
  obtain ⟨last, hlast⟩ := Option.ne_none_iff_exists'.1 fun h =>
    splitOn_ne_nil '/' [] path (List.getLast?_eq_none_iff.1 h)
  unfold resolvedPath
  dsimp only
  split_ifs
  · exact .inr rfl
  · rw [lastSegment_joinWith fun _ => notMem_of_mem_resolveSegments, hpath, hlast]
    exact (getLast?_resolveSegments ((getLast?_segments base path).trans hlast)).imp
      (congrArg (Option.getD · [])) (congrArg (Option.getD · []))

end ResolvedPath

/-! ### Resolving keeps the parts apart -/

theorem isAmong_hostSchemes {scheme : List Char} (h : IsWeb scheme) :
    isAmong hostSchemes scheme = true := by
  rcases h with rfl | rfl <;> decide

theorem isAmong_relativeSchemes {scheme : List Char} (h : IsWeb scheme) :
    isAmong relativeSchemes scheme = true := by
  rcases h with rfl | rfl <;> decide

theorem resolve_of_isWeb {base u : Url} (h : IsWeb u.scheme) :
    resolve base u =
      if u.path.isEmpty && u.params.isEmpty then
        { u with
          host := base.host, path := base.path, params := base.params
          query := if u.query.isEmpty then base.query else u.query }
      else { u with host := base.host, path := resolvedPath base.path u.path } := by
  rw [resolve, if_pos (isAmong_hostSchemes h)]
  rfl

/-- An address that was resolved has the host of the base. -/
theorem resolve_host {base u : Url} (h : IsWeb u.scheme) : (resolve base u).host = base.host := by
  rw [resolve_of_isWeb h]
  split_ifs <;> rfl

theorem resolve_scheme (base u : Url) : (resolve base u).scheme = u.scheme := by
  unfold resolve
  dsimp only
  split_ifs <;> rfl

/-- An address that was resolved keeps its parts apart. -/
theorem apart_resolve {base u : Url} (hscheme : IsWeb u.scheme) (hbase : Apart base)
    (hu : Apart u) : Apart (resolve base u) := by
  rw [resolve_of_isWeb hscheme]
  by_cases hempty : u.path.isEmpty && u.params.isEmpty
  · rw [if_pos hempty]
    exact {
      hbase with
      query := by
        dsimp only
        split_ifs
        · exact hbase.query
        · exact hu.query
      plainQuery := by
        dsimp only
        split_ifs
        · exact hbase.plainQuery
        · exact hu.plainQuery
      plainFragment := hu.plainFragment }
  · rw [if_neg hempty]
    have hpath (c : Char) (hc : c ∈ resolvedPath base.path u.path) :
        c = '/' ∨ c ∈ base.path ∨ c ∈ u.path := mem_of_mem_resolvedPath hc
    exact {
      hu with
      checked := hbase.checked
      host := hbase.host
      path := by
        refine ⟨fun hc => ?_, fun hc => ?_⟩
        · exact (hpath _ hc).elim (by decide) fun h => h.elim hbase.path.1 hu.path.1
        · exact (hpath _ hc).elim (by decide) fun h => h.elim hbase.path.2 hu.path.2
      lastSegment := by
        dsimp only
        rcases lastSegment_resolvedPath base.path u.path with h | h
        · rw [h]
          exact hu.lastSegment
        · rw [h]
          exact List.not_mem_nil
      plainHost := hbase.plainHost
      plainPath := by
        intro c hc
        rcases hpath c hc with rfl | hc | hc
        · rfl
        · exact hbase.plainPath c hc
        · exact hu.plainPath c hc }

/-! ### Resolving a second time -/

/-- The texts of addresses of the web in normal form: with a host, and written as they are read. -/
def IsBase (base : List Char) : Prop :=
  ∃ b, read [] base = .ok b ∧ IsWeb b.scheme ∧ b.host ≠ [] ∧ b.write = base

section Join

variable {base s : List Char} {b : Url}

theorem write_ne_nil {u : Url} (hscheme : u.scheme ≠ []) (hhost : u.host ≠ []) : u.write ≠ [] := by
  rw [write_eq hscheme hhost]
  exact List.append_ne_nil_of_right_ne_nil _ (List.cons_ne_nil _ _)

/-- Resolving an address against a base of the web. -/
theorem join_eq (hread : read [] base = .ok b) (hscheme : IsWeb b.scheme) (hbase : base ≠ [])
    (hs : s ≠ []) :
    join base s = (read b.scheme s).map fun u =>
      if u.scheme ≠ b.scheme then s
      else if u.host ≠ [] then u.write
      else (resolve b u).write := by
  unfold join
  rw [if_neg (by simpa using hbase), if_neg (by simpa using hs), hread, Result.ok_bind]
  cases read b.scheme s with
  | error f => rfl
  | ok u =>
    show (if u.scheme ≠ b.scheme || !isAmong relativeSchemes u.scheme then .ok s
      else if isAmong hostSchemes u.scheme && !u.host.isEmpty then .ok u.write
      else .ok (resolve b u).write : Except Fault (List Char)) = .ok _
    by_cases hother : u.scheme = b.scheme
    · by_cases hhost : u.host = []
      · simp [hother, hhost, isAmong_relativeSchemes hscheme]
      · simp [hother, hhost, isAmong_relativeSchemes hscheme, isAmong_hostSchemes hscheme]
    · simp [hother]

/-- An address can be resolved against a base of the web if it can be read. -/
theorem exists_join (h : IsBase base) {u : Url}
    (hu : (read [] base >>= fun b => read b.scheme s) = .ok u) : ∃ w, join base s = .ok w := by
  obtain ⟨b, hread, hscheme, hhost, rfl⟩ := h
  rw [hread, Result.ok_bind] at hu
  have hbase : b.write ≠ [] := write_ne_nil hscheme.ne_nil hhost
  by_cases hs : s = []
  · exact ⟨b.write, by rw [hs, join, if_neg (by simpa using hbase)]; rfl⟩
  · exact ⟨_, by rw [join_eq hread hscheme hbase hs, hu]; rfl⟩

/-- An address with a host and the scheme of the base is not changed. -/
theorem join_write (hread : read [] base = .ok b) (hscheme : IsWeb b.scheme) (hbase : base ≠ [])
    {u : Url} (hu : Apart u) (hsame : u.scheme = b.scheme) (hhost : u.host ≠ []) :
    join base u.write = .ok u.write := by
  have huscheme : IsWeb u.scheme := hsame ▸ hscheme
  rw [join_eq hread hscheme hbase (write_ne_nil huscheme.ne_nil hhost),
    read_write huscheme hhost hu]
  show Except.ok (if u.scheme ≠ b.scheme then u.write else if u.host ≠ [] then u.rooted.write
    else (resolve b u.rooted).write) = _
  rw [if_neg (not_not.2 hsame), if_pos hhost, write_rooted huscheme.ne_nil hhost]

/-- **Resolving an address a second time changes nothing.** -/
theorem join_join (h : IsBase base) {w : List Char} (hw : join base s = .ok w) :
    join base w = .ok w := by
  obtain ⟨b, hread, hscheme, hhost, rfl⟩ := h
  have hbase : b.write ≠ [] := write_ne_nil hscheme.ne_nil hhost
  have hb : Apart b := apart_of_read hread hscheme
  by_cases hs : s = []
  · have hself : b.write = w := by
      rw [hs, join, if_neg (by simpa using hbase)] at hw
      exact Except.ok.inj hw
    rw [← hself]
    exact join_write hread hscheme hbase hb rfl hhost
  · rw [join_eq hread hscheme hbase hs] at hw
    obtain ⟨u, hu, rfl⟩ := Result.map_eq_ok_iff.1 hw
    split_ifs with hother hown
    -- left alone, given with a host of its own, or put together with the base
    · rw [join_eq hread hscheme hbase hs, hu]
      exact congrArg Except.ok (if_pos hother)
    · have huscheme : u.scheme = b.scheme := not_not.1 hother
      exact join_write hread hscheme hbase (apart_of_read hu (huscheme ▸ hscheme)) huscheme hown
    · have huscheme : u.scheme = b.scheme := not_not.1 hother
      have huweb : IsWeb u.scheme := huscheme ▸ hscheme
      refine join_write hread hscheme hbase (apart_resolve huweb hb (apart_of_read hu huweb)) ?_ ?_
      · rw [resolve_scheme, huscheme]
      · rwa [resolve_host huweb]

end Join

end Extraction.Url
