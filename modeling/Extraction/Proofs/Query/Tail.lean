import Extraction.Proofs.Query.Spelling
import Mathlib.Algebra.GroupWithZero.Nat

/-!
# The tail of a query

The filters of a query are read from the segments after its first separating pipe, joined again by
pipes without blanks. A segment that begins with an equals sign does not come out of this as it went
in: behind its pipe it is one operator, and with the segment before it one filter. It was a segment
of its own because blanks stood between the pipe and the equals sign. A chain keeps every pipe of
its text but those that separate, so a filter that is lost in this way is made up for by nothing.

## Main definitions

* `Query.Detached` : somewhere blanks stand between a pipe and an equals sign.
* `Query.FilterCall.pipes` : the number of pipes in a call.

## Main results

* `Query.sum_pipes_filterMap` : reading calls keeps the pipes of their segments.
* `Query.readChain_joinWith_eq_iff` : which segments, joined by pipes, are read as the same calls.
* `Query.outcome_parse_tail` : the filters of a query, and when they are the chain of its tail.
-/

namespace Extraction.Query

open Text

/-! ### Detached equals signs -/

/-- Somewhere in a text blanks, at least one, stand between a pipe and an equals sign. -/
def Detached : List Char → Prop
  | [] => False
  | c :: rest =>
    (c = '|' ∧ rest.head? ≠ some '=' ∧ (trimStart rest).head? = some '=') ∨ Detached rest

instance decidableDetached : DecidablePred Detached
  | [] => inferInstanceAs (Decidable False)
  | c :: rest =>
    have := decidableDetached rest
    inferInstanceAs (Decidable ((c = '|' ∧ rest.head? ≠ some '=' ∧
      (trimStart rest).head? = some '=') ∨ Detached rest))

theorem Guarded.not_detached {s : List Char} (hs : Guarded s) : ¬Detached s := by
  induction s with
  | nil => exact id
  | cons c s ih =>
    rintro (⟨hc, hhead, -⟩ | h)
    · exact hhead (hs.1 hc)
    · exact ih hs.2 h

theorem detached_append_pipe {p t : List Char} (hp : Guarded p) (ht : t.head? ≠ some '=') :
    Detached (p ++ '|' :: t) ↔ (trimStart t).head? = some '=' ∨ Detached t := by
  induction p with
  | nil => simp [Detached, ht]
  | cons c p ih =>
    rw [← ih hp.2, List.cons_append, Detached]
    exact or_iff_right fun h => hp.not_separating _ ⟨h.1, h.2.1⟩

theorem head?_trim (s : List Char) : (trim s).head? = (trimStart s).head? := by
  obtain ⟨w, w', hw, hw', hs⟩ := exists_blanks_trim s
  have hstart : trimStart s = trimStart (trim s ++ w') := by
    rw [← trimStart_append_of_blank hw (trim s ++ w'), ← List.append_assoc, ← hs]
  cases htrim : trim s with
  | nil => rw [hstart, htrim, List.nil_append, trimStart_eq_nil_iff.2 hw']
  | cons c more =>
    have hc : isBlank c = false := (trimmed_trim s).head c (by rw [htrim]; rfl)
    rw [hstart, htrim, List.cons_append, trimStart, List.dropWhile_cons_of_neg (by simp [hc])]
    rfl

theorem head?_trimStart_append_pipe (p t : List Char) :
    (trimStart (p ++ '|' :: t)).head? = some '=' ↔ (trimStart p).head? = some '=' := by
  rw [trimStart, List.dropWhile_append, ← trimStart, ← trimStart]
  cases trimStart p with
  | nil =>
    rw [List.isEmpty_nil, if_pos rfl, trimStart, List.dropWhile_cons_of_neg (by decide)]
    simp
  | cons c p => simp

/-- Blanks stand between a pipe and an equals sign exactly if a later piece, once it is trimmed,
begins with an equals sign. -/
theorem detached_iff_of_pipePieces {t piece : List Char} {more : List (List Char)}
    (h : pipePieces t = piece :: more) :
    Detached t ↔ ∃ p ∈ more, (trim p).head? = some '=' := by
  induction t using segmentInduction generalizing piece more with
  | guarded t ht =>
    rw [pipePieces_of_guarded ht] at h
    obtain ⟨-, rfl⟩ := List.cons.inj h
    simpa using ht.not_detached
  | pipe s t hs ht ih =>
    rw [pipePieces_append_pipe hs ht] at h
    obtain ⟨rfl, rfl⟩ := List.cons.inj h
    cases hpieces : pipePieces t with
    | nil => exact absurd hpieces (pipePieces_ne_nil t)
    | cons first rest =>
      have hfirst : (trim first).head? = some '=' ↔ (trimStart t).head? = some '=' := by
        rw [head?_trim]
        rcases guarded_or_exists_pipe t with hguarded | ⟨p, r, rfl, hp, hr⟩
        · rw [pipePieces_of_guarded hguarded] at hpieces
          rw [(List.cons.inj hpieces).1]
        · rw [pipePieces_append_pipe hp hr] at hpieces
          rw [head?_trimStart_append_pipe, (List.cons.inj hpieces).1]
      simp [detached_append_pipe hs ht, ih hpieces, hfirst]

/-! ### The pipes of calls -/

/-- The number of pipes in the name and the arguments of a call. -/
def FilterCall.pipes (c : FilterCall) : Nat :=
  ((c.name :: c.arguments).map fun s => s.toList.count '|').sum

theorem count_trim (s : List Char) : (trim s).count '|' = s.count '|' := by
  obtain ⟨w, w', hw, hw', hs⟩ := exists_blanks_trim s
  have hzero {v : List Char} (hv : allBlank v = true) : v.count '|' = 0 :=
    List.count_eq_zero.2 (notMem_of_all hv (by decide))
  conv_rhs => rw [hs]
  rw [List.count_append, List.count_append, hzero hw, hzero hw', Nat.zero_add, Nat.add_zero]

/-- The parts of a segment have the pipes of the segment: what is left out of it are quotes and
colons. -/
theorem sum_count_splitArgumentsFrom {quote : Option Char} (hquote : quote ≠ some '|')
    (current rest : List Char) :
    ((splitArgumentsFrom quote current rest).map (List.count '|')).sum =
      current.count '|' + rest.count '|' := by
  induction rest generalizing quote current with
  | nil => cases quote <;> simp [splitArgumentsFrom]
  | cons c rest ih =>
    have hnext (quote' : Option Char) (hquote' : quote' ≠ some '|') :
        ((splitArgumentsFrom quote' (c :: current) rest).map (List.count '|')).sum =
          current.count '|' + (c :: rest).count '|' := by
      rw [ih hquote', List.count_cons, List.count_cons]
      omega
    cases quote with
    | some q =>
      rw [splitArgumentsFrom]
      split_ifs with hc
      · rw [ih (by simp), hc, List.count_cons_of_ne fun h => hquote (congrArg some h)]
      · exact hnext (some q) hquote
    | none =>
      rw [splitArgumentsFrom]
      split_ifs with hopen hcolon
      · have hc : c ≠ '|' := by
          rintro rfl
          simp at hopen
        rw [ih (by simpa using hc), List.count_cons_of_ne hc]
      · rw [List.map_cons, List.sum_cons, ih (by simp), List.count_reverse, List.count_nil,
          Nat.zero_add, List.count_cons_of_ne (by rw [hcolon]; decide)]
      · exact hnext none (by simp)

theorem pipes_readCall? (s : List Char) :
    ((readCall? s).map FilterCall.pipes).getD 0 = s.count '|' := by
  have hsum := @sum_count_splitArgumentsFrom none (by simp) [] (trim s)
  rw [List.count_nil, Nat.zero_add, count_trim, ← splitArguments] at hsum
  simp only [readCall?]
  split_ifs with hempty
  · rw [← count_trim, List.isEmpty_iff.1 hempty]
    rfl
  · cases hparts : splitArguments (trim s) with
    | nil =>
      rw [hparts] at hsum
      exact hsum
    | cons name arguments =>
      rw [hparts, List.map_cons, List.sum_cons] at hsum
      simpa [FilterCall.pipes, Function.comp_def, count_trim] using hsum

/-- Reading calls keeps the pipes of their segments. -/
theorem sum_pipes_filterMap (ps : List (List Char)) :
    ((ps.filterMap readCall?).map FilterCall.pipes).sum = (ps.map (List.count '|')).sum := by
  induction ps with
  | nil => rfl
  | cons p ps ih =>
    rw [List.map_cons, List.sum_cons, ← pipes_readCall? p]
    cases hcall : readCall? p with
    | none => simpa [hcall] using ih
    | some c => simpa [hcall] using ih

theorem sum_count_pipePieces (s : List Char) :
    ((pipePieces s).map (List.count '|')).sum + (pipePieces s).length = s.count '|' + 1 := by
  induction s using segmentInduction with
  | guarded s hs => simp [pipePieces_of_guarded hs]
  | pipe s t hs ht ih =>
    rw [pipePieces_append_pipe hs ht, List.map_cons, List.sum_cons, List.length_cons,
      List.count_append, List.count_cons_self]
    omega

theorem count_joinWith (piece : List Char) (more : List (List Char)) :
    (joinWith ['|'] (piece :: more)).count '|' =
      ((piece :: more).map (List.count '|')).sum + more.length := by
  induction more generalizing piece with
  | nil => simp [joinWith]
  | cons next more ih =>
    have hsum : ((piece :: next :: more).map (List.count '|')).sum =
        piece.count '|' + ((next :: more).map (List.count '|')).sum := rfl
    rw [joinWith_cons_cons, List.count_append, List.count_cons_self, ih, hsum, List.length_cons]
    omega

/-- Segments that are joined by pipes are read as the same calls exactly if no later one begins with
an equals sign. -/
theorem readChain_joinWith_eq_iff {piece : List Char} {more : List (List Char)}
    (hguarded : ∀ p ∈ piece :: more, Guarded p) :
    readChain (joinWith ['|'] (piece :: more)) = (piece :: more).filterMap readCall? ↔
      ∀ p ∈ more, p.head? ≠ some '=' := by
  have hpieces := pipePieces_joinWith hguarded
  rw [readChain_eq_filterMap]
  constructor
  · -- Pieces that are fused are fewer, so that one more pipe is left for the calls to keep.
    intro h
    have hcount := sum_count_pipePieces (joinWith ['|'] (piece :: more))
    rw [count_joinWith, ← sum_pipes_filterMap, ← sum_pipes_filterMap, h, hpieces,
      length_fused] at hcount
    have hall : more.countP (·.head? ≠ some '=') = more.length := by omega
    simpa using List.countP_eq_length.1 hall
  · intro h
    rw [hpieces, fused_eq_self h]

/-! ### Tails -/

/-- **The filters of a query are the chain of its tail exactly if no blanks stand between a pipe and
an equals sign there.** Take any query that is read, by way of a store that reading queries has
filled in any way, and has a separating pipe. Its filters are the calls of the trimmed pieces of the
text after the first such pipe, where a later piece that begins with an equals sign belongs to the
piece before it. They are the calls of the chain that this text is exactly if there is no such
piece. -/
theorem outcome_parse_tail {query : String} {capacity : Int} {uses : List Use}
    {ns ws : List Notice} {d : Descriptor}
    (h : (parse (.text query)).outcomeFrom ⟨.filled capacity uses, ns⟩ = (.ok d, ws))
    {p t : List Char} (hbody : unbracketed (trim query.toList) = p ++ '|' :: t) (hp : Guarded p)
    (ht : t.head? ≠ some '=') :
    d.filters = (fused ((pipePieces t).map trim)).filterMap readCall? ∧
      (d.filters = readChain t ↔ ¬Detached t) := by
  have hsegments : splitFilters (p ++ '|' :: t) = trim p :: (pipePieces t).map trim := by
    have htrimmed := trimmed_unbracketed (trimmed_trim query.toList)
    rw [← hbody, ← htrimmed.trim_eq, splitFilters_trim, hbody, pipePieces_append_pipe hp ht,
      List.map_cons]
  have hfilters : readChain (joinWith ['|'] ((pipePieces t).map trim)) = d.filters := by
    have hchain := (Descriptor.readBody_ok_iff.1
      (Descriptor.readBody_of_read (read_of_outcome h))).2.1
    rwa [hbody, hsegments, List.drop_one, List.tail_cons] at hchain
  have hcalls : readChain t = ((pipePieces t).map trim).filterMap readCall? := by
    rw [readChain_eq_filterMap, List.filterMap_map]
    exact congrArg (fun f => List.filterMap f _) (funext fun s => (readCall?_trim s).symm)
  cases hpieces : pipePieces t with
  | nil => exact absurd hpieces (pipePieces_ne_nil t)
  | cons piece more =>
    have hguarded : ∀ q ∈ trim piece :: more.map trim, Guarded q := by
      intro q hq
      obtain ⟨r, hr, rfl⟩ := List.mem_map.1 (show q ∈ (piece :: more).map trim from hq)
      exact (guarded_of_mem_pipePieces (hpieces ▸ hr)).trim
    rw [hpieces, List.map_cons] at hfilters hcalls
    rw [← hfilters, hcalls, readChain_joinWith_eq_iff hguarded,
      detached_iff_of_pipePieces hpieces, List.map_cons, readChain_eq_filterMap,
      pipePieces_joinWith hguarded]
    exact ⟨rfl, by simp⟩

/-- A query in brackets, with an operator in an argument and two pipes in a row. -/
theorem outcome_parse_tail_operator :
    let d : Descriptor := ⟨some "a", none, [⟨"f", ["x|=y"]⟩, ⟨"g", []⟩], true⟩
    (parse (.text "[a | f:x|=y || g]")).outcomeFrom {} = (.ok d, []) ∧
      d.filters = readChain " f:x|=y || g".toList := by
  intro d
  have hread : Descriptor.read (trim "[a | f:x|=y || g]".toList) = .ok d := by decide +kernel
  have h := outcome_of_read (by decide) (by decide) hread 1000 [] []
  have htail := outcome_parse_tail h (p := "a ".toList) (t := " f:x|=y || g".toList)
    (by decide) (by decide) (by decide)
  exact ⟨h, htail.2.2 (by decide)⟩

/-- The chain of a tail has two filters, and the query has only one. -/
theorem outcome_parse_fusedSegments :
    unbracketed (trim "a | b | =x".toList) = "a ".toList ++ '|' :: " b | =x".toList ∧
      Guarded "a ".toList ∧ " b | =x".toList.head? ≠ some '=' ∧
      readChain " b | =x".toList = [⟨"b", []⟩, ⟨"=x", []⟩] ∧
      ((parse (.text "a | b | =x")).outcomeFrom {}).1.toOption =
        some ⟨some "a", none, [⟨"b|=x", []⟩], false⟩ := by
  decide +kernel

end Extraction.Query
