import Extraction.Proofs.Query.Segment
import Extraction.Proofs.Text.Search
import Mathlib.Data.List.Infix

/-!
# The separating pipes of a text

Splitting a text at its separating pipes loses nothing but blanks: if the segments are joined by
pipes again, the text comes back without the blanks that stand directly before and after those
pipes. Every such pipe ends one segment, so there is one segment more than there are pipes, and no
segment has a separating pipe of its own: inside a segment all pipes are still followed by their
equals signs, as only blanks at the ends have been taken away.

A character is judged by what stands before it and after it in the text. When a text is gone through
from left to right, all that matters of what stands before is whether nothing but blanks has come
since the last pipe.

## Main definitions

* `Query.OpensWithPipe` : texts that begin with a separating pipe.
* `Query.pipeCount` : the number of separating pipes.
* `Query.BesidePipe` : blanks directly before or after a separating pipe.
* `Query.tightened` : a text without these blanks.

## Main results

* `Query.besidePipe_iff` : when a blank is beside a pipe, by trimming what is before and after it.
* `Query.tightenedAfter_append_pipe` : what is kept of a text up to a separating pipe.
* `Query.joinWith_splitFilters` : the segments of a text.
-/

namespace Extraction.Query

open Text

/-! ### Counting pipes -/

/-- A text begins with a separating pipe. -/
def OpensWithPipe (s : List Char) : Prop :=
  s.head? = some '|' ∧ s.tail.head? ≠ some '='

instance decidableOpensWithPipe : DecidablePred OpensWithPipe := fun s =>
  inferInstanceAs (Decidable (s.head? = some '|' ∧ s.tail.head? ≠ some '='))

/-- The number of separating pipes in a text: so many of its suffixes begin with one. -/
def pipeCount (s : List Char) : Nat :=
  s.tails.countP fun r => OpensWithPipe r

theorem opensWithPipe_cons {c : Char} {s : List Char} :
    OpensWithPipe (c :: s) ↔ c = '|' ∧ s.head? ≠ some '=' := by
  simp [OpensWithPipe]

theorem pipeCount_cons (c : Char) (s : List Char) :
    pipeCount (c :: s) = pipeCount s + if c = '|' ∧ s.head? ≠ some '=' then 1 else 0 := by
  rw [pipeCount, List.tails_cons, List.countP_cons, ← pipeCount]
  simp only [opensWithPipe_cons, decide_eq_true_eq]

/-- A text is guarded exactly if it has no separating pipe. -/
theorem pipeCount_eq_zero_iff {s : List Char} : pipeCount s = 0 ↔ Guarded s := by
  induction s with
  | nil => exact iff_of_true rfl trivial
  | cons c s ih =>
    rw [pipeCount_cons, Nat.add_eq_zero_iff, ih, Guarded, and_comm]
    refine and_congr_left fun _ => ?_
    split_ifs with h
    · exact iff_of_false id fun hc => h.2 (hc h.1)
    · exact iff_of_true rfl fun hc => by_contra fun hs => h ⟨hc, hs⟩

theorem pipeCount_append_pipe {p t : List Char} (hp : Guarded p) (ht : t.head? ≠ some '=') :
    pipeCount (p ++ '|' :: t) = pipeCount t + 1 := by
  induction p with
  | nil => rw [List.nil_append, pipeCount_cons, if_pos ⟨rfl, ht⟩]
  | cons c p ih => rw [List.cons_append, pipeCount_cons, if_neg (hp.not_separating _), ih hp.2]

/-- Every separating pipe ends one piece. -/
theorem length_pipePieces (t : List Char) : (pipePieces t).length = pipeCount t + 1 := by
  induction t using segmentInduction with
  | guarded t ht => rw [pipePieces_of_guarded ht, pipeCount_eq_zero_iff.2 ht, List.length_singleton]
  | pipe p t hp ht ih =>
    rw [pipePieces_append_pipe hp ht, pipeCount_append_pipe hp ht, List.length_cons, ih]

theorem length_trimLater (ps : List (List Char)) : (trimLater ps).length = ps.length := by
  induction ps with
  | nil => rfl
  | cons piece more ih =>
    cases more with
    | nil => rfl
    | cons next more => rw [trimLater_cons (by simp), List.length_cons, ih, ← List.length_cons]

theorem length_splitFilters (t : List Char) : (splitFilters t).length = pipeCount t + 1 := by
  rcases guarded_or_exists_pipe t with ht | ⟨p, r, rfl, hp, hr⟩
  · rw [splitFilters_of_guarded ht, pipeCount_eq_zero_iff.2 ht, List.length_singleton]
  · rw [splitFilters_append_pipe hp hr, pipeCount_append_pipe hp hr, List.length_cons,
      length_trimLater, length_pipePieces]

/-! ### Pipes in segments -/

theorem Guarded.trimStart {s : List Char} (hs : Guarded s) : Guarded (trimStart s) := by
  obtain ⟨w, -, hw⟩ := exists_blank_trimStart s
  rw [hw] at hs
  exact hs.right

theorem Guarded.trimEnd {s : List Char} (hs : Guarded s) : Guarded (trimEnd s) := by
  obtain ⟨w, hblank, hw⟩ := exists_blank_trimEnd s
  rw [hw] at hs
  exact hs.left fun h => notMem_of_all hblank (by decide) (List.mem_of_head? h)

theorem guarded_of_mem_trimLater {ps : List (List Char)} (hps : ∀ p ∈ ps, Guarded p)
    {s : List Char} (hs : s ∈ trimLater ps) : Guarded s := by
  induction ps with
  | nil => cases hs
  | cons piece more ih =>
    have hpiece := hps piece List.mem_cons_self
    cases more with
    | nil =>
      obtain rfl := List.mem_singleton.1 hs
      exact hpiece.trimStart
    | cons next more =>
      rcases List.mem_cons.1 hs with rfl | hs
      · exact hpiece.trim
      · exact ih (fun p hp => hps p (List.mem_cons_of_mem piece hp)) hs

/-- Segments have no separating pipes. -/
theorem guarded_of_mem_splitFilters {s t : List Char} (hs : s ∈ splitFilters t) : Guarded s := by
  rcases guarded_or_exists_pipe t with ht | ⟨p, r, rfl, hp, hr⟩
  · rw [splitFilters_of_guarded ht, List.mem_singleton] at hs
    exact hs ▸ ht
  · rw [splitFilters_append_pipe hp hr] at hs
    rcases List.mem_cons.1 hs with rfl | hs
    · exact hp.trimEnd
    · exact guarded_of_mem_trimLater (fun _ => guarded_of_mem_pipePieces) hs

/-! ### Blanks beside pipes -/

/-- A character between two texts is a blank directly before or after a separating pipe: nothing but
blanks stands between the two. A pipe before it separates in any case, since a blank follows. -/
inductive BesidePipe : List Char → Char → List Char → Prop
  | before {x w z : List Char} {c : Char} : isBlank c = true → allBlank w = true →
      z.head? ≠ some '=' → BesidePipe x c (w ++ '|' :: z)
  | after {x w y : List Char} {c : Char} : isBlank c = true → allBlank w = true →
      BesidePipe (x ++ '|' :: w) c y

/-- Nothing but blanks comes after the last pipe of a text. -/
def EndsWithPipe (x : List Char) : Prop :=
  (trimEnd x).getLast? = some '|'

instance decidableEndsWithPipe : DecidablePred EndsWithPipe := fun x =>
  inferInstanceAs (Decidable ((trimEnd x).getLast? = some '|'))

theorem isBlank_pipe : isBlank '|' = false := by
  decide

theorem besidePipe_iff {x y : List Char} {c : Char} :
    BesidePipe x c y ↔
      isBlank c = true ∧ (OpensWithPipe (trimStart y) ∨ EndsWithPipe x) := by
  constructor
  · rintro (@⟨x, w, z, c, hc, hw, hz⟩ | @⟨x, w, y, c, hc, hw⟩)
    · refine ⟨hc, .inl ?_⟩
      rw [trimStart_append_of_blank hw, trimStart_cons_of_not_blank isBlank_pipe]
      exact opensWithPipe_cons.2 ⟨rfl, hz⟩
    · refine ⟨hc, .inr ?_⟩
      rw [EndsWithPipe, List.append_cons, trimEnd_append_of_blank hw,
        trimEnd_concat_of_not_blank isBlank_pipe, List.getLast?_concat]
  · rintro ⟨hc, hpipe | hpipe⟩
    · obtain ⟨w, hw, hy⟩ := exists_blank_trimStart y
      obtain ⟨hhead, hnext⟩ := hpipe
      obtain ⟨z, hz⟩ := List.head?_eq_some_iff.1 hhead
      rw [hz] at hy hnext
      exact hy ▸ .before hc hw hnext
    · obtain ⟨w, hw, hx⟩ := exists_blank_trimEnd x
      obtain ⟨v, hv⟩ := List.getLast?_eq_some_iff.1 hpipe
      rw [hv, List.append_assoc, List.singleton_append] at hx
      exact hx ▸ .after hc hw

instance decidableBesidePipe (x : List Char) (c : Char) (y : List Char) :
    Decidable (BesidePipe x c y) :=
  decidable_of_iff' _ besidePipe_iff

/-- A text without the blanks that stand directly before and after its separating pipes. -/
def tightened (t : List Char) : List Char :=
  (t.zipIdx.filter fun e => ¬BesidePipe (t.take e.2) e.1 (t.drop (e.2 + 1))).map Prod.fst

/-- What is kept of a text that follows another one. -/
def tightenedAfter : List Char → List Char → List Char
  | _, [] => []
  | x, c :: y =>
    if BesidePipe x c y then tightenedAfter (x ++ [c]) y else c :: tightenedAfter (x ++ [c]) y

/-- A text can be gone through from left to right. -/
theorem tightened_eq_tightenedAfter (t : List Char) : tightened t = tightenedAfter [] t := by
  have h (x y : List Char) :
      ((y.zipIdx x.length).filter fun e =>
        ¬BesidePipe ((x ++ y).take e.2) e.1 ((x ++ y).drop (e.2 + 1))).map Prod.fst =
        tightenedAfter x y := by
    induction y generalizing x with
    | nil => rfl
    | cons c y ih =>
      have hrest := ih (x ++ [c])
      rw [List.append_assoc, List.singleton_append, List.length_append, List.length_singleton]
        at hrest
      have hafter : (x ++ c :: y).drop (x.length + 1) = y := by
        rw [List.drop_length_add_append, List.drop_succ_cons, List.drop_zero]
      rw [List.zipIdx_cons, List.filter_cons, List.take_left, hafter, tightenedAfter, ← hrest]
      split_ifs <;> simp_all
  exact h [] t

/-! ### What is kept -/

theorem endsWithPipe_concat_of_blank {c : Char} (hc : isBlank c = true) (x : List Char) :
    EndsWithPipe (x ++ [c]) ↔ EndsWithPipe x := by
  rw [EndsWithPipe, trimEnd_concat_of_blank hc, EndsWithPipe]

theorem endsWithPipe_concat_of_not_blank {c : Char} (hc : isBlank c = false) (x : List Char) :
    EndsWithPipe (x ++ [c]) ↔ c = '|' := by
  rw [EndsWithPipe, trimEnd_concat_of_not_blank hc, List.getLast?_concat, Option.some_inj]

/-- A text without the blanks at its start if they follow a pipe. -/
def keptStart (x p : List Char) : List Char :=
  if EndsWithPipe x then trimStart p else p

theorem allBlank_keptStart (x p : List Char) : allBlank (keptStart x p) = allBlank p := by
  rw [keptStart]
  split_ifs
  · exact allBlank_trimStart p
  · rfl

theorem keptStart_cons {c : Char} {p : List Char} (hp : Guarded (c :: p)) (x : List Char) :
    keptStart x (c :: p) =
      if isBlank c = true ∧ EndsWithPipe x then keptStart (x ++ [c]) p
      else c :: keptStart (x ++ [c]) p := by
  cases hc : isBlank c with
  | true =>
    rw [keptStart, keptStart, trimStart_cons_of_blank hc]
    simp only [endsWithPipe_concat_of_blank hc, true_and]
    split_ifs <;> rfl
  | false =>
    -- A pipe here is followed by an equals sign, so that no blank follows it.
    have hnext : keptStart (x ++ [c]) p = p := by
      rw [keptStart]
      split_ifs with h
      · refine trimStart_eq_self fun d hd => ?_
        rw [hp.1 ((endsWithPipe_concat_of_not_blank hc x).1 h)] at hd
        obtain rfl := Option.some.inj hd
        decide
      · rfl
    rw [hnext, if_neg (by simp), keptStart, trimStart_cons_of_not_blank hc, ite_self]

theorem Guarded.not_opensWithPipe {s : List Char} (hs : Guarded s) : ¬OpensWithPipe s := by
  cases s with
  | nil => exact fun h => nomatch h.1
  | cons c s =>
    rw [opensWithPipe_cons]
    exact fun h => h.2 (hs.1 h.1)

/-- The pipe after a guarded text is the next character that is no blank if the text is blank. -/
theorem opensWithPipe_trimStart_iff {p t : List Char} (hp : Guarded p) (ht : t.head? ≠ some '=') :
    OpensWithPipe (trimStart (p ++ '|' :: t)) ↔ allBlank p = true := by
  cases hblank : allBlank p with
  | true =>
    rw [trimStart_append_of_blank hblank, trimStart_cons_of_not_blank isBlank_pipe]
    exact iff_of_true (opensWithPipe_cons.2 ⟨rfl, ht⟩) rfl
  | false =>
    have hne : trimStart p ≠ [] := fun h => by simp [trimStart_eq_nil_iff.1 h] at hblank
    obtain ⟨c, s, hs⟩ := List.exists_cons_of_ne_nil hne
    have hguarded := hp.trimStart
    rw [hs] at hguarded
    rw [trimStart_append hne, hs, List.cons_append, opensWithPipe_cons]
    exact iff_of_false (hguarded.not_separating _) Bool.false_ne_true

theorem besidePipe_guarded_iff {p : List Char} (hp : Guarded p) {x : List Char} {c : Char} :
    BesidePipe x c p ↔ isBlank c = true ∧ EndsWithPipe x := by
  rw [besidePipe_iff, or_iff_right hp.trimStart.not_opensWithPipe]

theorem besidePipe_append_pipe_iff {p t : List Char} (hp : Guarded p) (ht : t.head? ≠ some '=')
    {x : List Char} {c : Char} :
    BesidePipe x c (p ++ '|' :: t) ↔ isBlank c = true ∧ (allBlank p = true ∨ EndsWithPipe x) := by
  rw [besidePipe_iff, opensWithPipe_trimStart_iff hp ht]

/-- A guarded text keeps all its characters, but for the blanks at its start if they follow a
pipe. -/
theorem tightenedAfter_of_guarded {p : List Char} (hp : Guarded p) (x : List Char) :
    tightenedAfter x p = keptStart x p := by
  induction p generalizing x with
  | nil => rw [tightenedAfter, keptStart, trimStart, List.dropWhile_nil, ite_self]
  | cons c p ih =>
    rw [tightenedAfter, ih hp.2, keptStart_cons hp]
    simp only [besidePipe_guarded_iff hp.2]

/-- Before a separating pipe the blanks at the end of a guarded text are left out too. -/
theorem tightenedAfter_append_pipe {p t : List Char} (hp : Guarded p) (ht : t.head? ≠ some '=')
    (x : List Char) :
    tightenedAfter x (p ++ '|' :: t) =
      trimEnd (keptStart x p) ++ '|' :: tightenedAfter (x ++ p ++ ['|']) t := by
  induction p generalizing x with
  | nil =>
    have hpipe : ¬BesidePipe x '|' t := by
      rw [besidePipe_iff, isBlank_pipe]
      simp
    rw [List.nil_append, tightenedAfter, if_neg hpipe, keptStart, List.append_nil, trimStart,
      List.dropWhile_nil, ite_self]
    rfl
  | cons c p ih =>
    have hbeside : BesidePipe x c (p ++ '|' :: t) ↔
        isBlank c = true ∧ (allBlank p = true ∨ EndsWithPipe x) :=
      besidePipe_append_pipe_iff hp.2 ht
    rw [List.cons_append, tightenedAfter, ih hp.2, keptStart_cons hp, List.append_cons x c p]
    by_cases hend : isBlank c = true ∧ EndsWithPipe x
    · rw [if_pos (hbeside.2 ⟨hend.1, .inr hend.2⟩), if_pos hend]
    · rw [if_neg hend, trimEnd_cons, allBlank_keptStart]
      by_cases hblank : isBlank c = true ∧ allBlank p = true
      · rw [if_pos (hbeside.2 ⟨hblank.1, .inl hblank.2⟩), if_pos hblank]
        have hkept : allBlank (keptStart (x ++ [c]) p) = true := by
          rw [allBlank_keptStart, hblank.2]
        rw [trimEnd_of_allBlank hkept]
      · rw [if_neg hblank, if_neg]
        · rfl
        · rw [hbeside]
          tauto

/-! ### Joining -/

theorem endsWithPipe_concat_pipe (x : List Char) : EndsWithPipe (x ++ ['|']) :=
  (endsWithPipe_concat_of_not_blank isBlank_pipe x).2 rfl

theorem trimLater_pipePieces_ne_nil (t : List Char) : trimLater (pipePieces t) ≠ [] := by
  refine List.ne_nil_of_length_pos ?_
  rw [length_trimLater, length_pipePieces]
  exact Nat.succ_pos _

/-- After a pipe all pieces are kept, without the blanks at their ends that are beside pipes. -/
theorem joinWith_trimLater {x : List Char} (hx : EndsWithPipe x) (t : List Char) :
    joinWith ['|'] (trimLater (pipePieces t)) = tightenedAfter x t := by
  induction t using segmentInduction generalizing x with
  | guarded t ht =>
    rw [pipePieces_of_guarded ht, trimLater, joinWith, tightenedAfter_of_guarded ht, keptStart,
      if_pos hx]
  | pipe p t hp ht ih =>
    rw [pipePieces_append_pipe hp ht, trimLater_cons (pipePieces_ne_nil t),
      joinWith_cons (trimLater_pipePieces_ne_nil t), ih (endsWithPipe_concat_pipe (x ++ p)),
      tightenedAfter_append_pipe hp ht, keptStart, if_pos hx, List.append_assoc,
      List.singleton_append]
    rfl

/-- **Splitting at pipes loses only the blanks beside them.** Take any text. If its segments are
joined by pipes, the text comes back without exactly those blanks that stand directly before or
after a separating pipe, which is one that no equals sign follows. There is one segment more than
there are separating pipes in the text. There is none in a segment: all its pipes are followed by
an equals sign, and it is its own only segment. -/
theorem joinWith_splitFilters (t : List Char) :
    joinWith ['|'] (splitFilters t) = tightened t ∧
      (splitFilters t).length = pipeCount t + 1 ∧
      ∀ s ∈ splitFilters t, pipeCount s = 0 ∧ Guarded s ∧ splitFilters s = [s] := by
  refine ⟨?_, length_splitFilters t, fun s hs => ?_⟩
  · have hstart : ¬EndsWithPipe [] := by decide
    rw [tightened_eq_tightenedAfter]
    rcases guarded_or_exists_pipe t with ht | ⟨p, r, rfl, hp, hr⟩
    · rw [splitFilters_of_guarded ht, joinWith, tightenedAfter_of_guarded ht, keptStart,
        if_neg hstart]
    · rw [splitFilters_append_pipe hp hr, joinWith_cons (trimLater_pipePieces_ne_nil r),
        joinWith_trimLater (endsWithPipe_concat_pipe ([] ++ p)), tightenedAfter_append_pipe hp hr,
        keptStart, if_neg hstart, List.append_assoc, List.singleton_append]
  · have hguarded := guarded_of_mem_splitFilters hs
    exact ⟨pipeCount_eq_zero_iff.2 hguarded, hguarded, splitFilters_of_guarded hguarded⟩

/-- Two pipes in a row, blanks before an operator, and a pipe at the end. -/
example : splitFilters "a  || b |=c |  ".toList =
      ["a".toList, "".toList, "b |=c".toList, "".toList] ∧
    tightened "a  || b |=c |  ".toList = "a||b |=c|".toList := by
  decide

end Extraction.Query
