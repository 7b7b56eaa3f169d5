import Extraction.Query.Attribute
import Mathlib.Tactic.SplitIfs

/-!
# The scan for the attribute sign

The scan of a selector for its last at sign outside brackets, parentheses and quotes goes from left
to right with a state. Scanning a text and then another is the same as scanning both, and what
follows decides: a sign in the second text comes before any in the first one.

## Main definitions

* `Query.Depth.Sound` : states that a scan can be in.
* `Query.Depth.isNeutral` : characters that change no state.
* `Query.ClosedEarly` : texts of which a beginning closes all that it opens.

## Main results

* `Query.Depth.after_append`, `Query.Depth.after_of_neutral` : the state after a text.
* `Query.findMarkerFrom_append` : the last sign of two texts.
* `Query.findMarkerFrom_eq_none_iff` : where there is no sign.
* `Query.findMarker_append_sign` : a sign with none after it is the last one.
-/

namespace Extraction.Query

namespace Depth

/-- The states that a scan can be in: a quote that is open is of one of the two kinds. -/
def Sound (d : Depth) : Prop :=
  ∀ q ∈ d.quote, q = '\'' ∨ q = '"'

theorem sound_ground : ground.Sound :=
  fun _ hq => by cases hq

theorem Sound.step {d : Depth} (hd : d.Sound) (c : Char) : (d.step c).Sound := by
  obtain ⟨depth, quote⟩ := d
  cases quote with
  | some q =>
    unfold Depth.step
    by_cases hc : c = q
    · simp [hc, Sound]
    · simpa [hc] using hd
  | none =>
    intro q hq
    simp only [Depth.step] at hq
    split_ifs at hq with hquote
    · obtain rfl : c = q := by simpa using hq
      simpa using hquote
    all_goals cases hq

theorem after_append (d : Depth) (s t : List Char) : d.after (s ++ t) = (d.after s).after t :=
  List.foldl_append

theorem Sound.after {d : Depth} (hd : d.Sound) (s : List Char) : (d.after s).Sound := by
  induction s generalizing d with
  | nil => exact hd
  | cons c s ih => exact ih (hd.step c)

/-- Whether a character changes no state: it is neither a quote nor a bracket or parenthesis. -/
def isNeutral (c : Char) : Bool :=
  c ∉ ['\'', '"', '[', '(', ')', ']']

theorem step_of_neutral {d : Depth} (hd : d.Sound) {c : Char} (hc : isNeutral c = true) :
    d.step c = d := by
  have hc' : c ≠ '\'' ∧ c ≠ '"' ∧ c ≠ '[' ∧ c ≠ '(' ∧ c ≠ ')' ∧ c ≠ ']' := by
    simpa [isNeutral] using hc
  obtain ⟨h1, h2, h3, h4, h5, h6⟩ := hc'
  obtain ⟨depth, quote⟩ := d
  cases quote with
  | some q =>
    have hq : c ≠ q := by
      rcases hd q rfl with rfl | rfl
      · exact h1
      · exact h2
    simp [step, hq]
  | none => simp [step, h1, h2, h3, h4, h5, h6]

theorem after_of_neutral {d : Depth} (hd : d.Sound) {s : List Char}
    (hs : s.all isNeutral = true) : d.after s = d := by
  induction s with
  | nil => rfl
  | cons c s ih =>
    rw [List.all_cons, Bool.and_eq_true] at hs
    rw [after, List.foldl_cons, step_of_neutral hd hs.1]
    exact ih hs.2

theorem all_isNeutral_of_all {f : Char → Bool}
    (hf : ['\'', '"', '[', '(', ')', ']'].any f = false) {s : List Char} (hs : s.all f = true) :
    s.all isNeutral = true := by
  rw [List.all_eq_true] at hs ⊢
  intro c hc
  rw [isNeutral, decide_eq_true_eq]
  intro h
  rw [List.any_eq_true.2 ⟨c, h, hs c hc⟩] at hf
  cases hf

/-- Brackets or parentheses that are closed where they are opened change no state. -/
theorem after_enclosed {d : Depth} (hd : d.Sound) {s : List Char}
    (hs : s.all isNeutral = true) {o e : Char} (ho : o = '[' ∨ o = '(')
    (he : e = ']' ∨ e = ')') : d.after (o :: s ++ [e]) = d := by
  have hinside : d.after (o :: s) = d.step o := after_of_neutral (hd.step o) hs
  rw [after_append, hinside, after, List.foldl_cons, List.foldl_nil]
  obtain ⟨depth, quote⟩ := d
  cases quote with
  | some q => rcases hd q rfl with rfl | rfl <;> rcases ho with rfl | rfl <;>
      rcases he with rfl | rfl <;> rfl
  | none => rcases ho with rfl | rfl <;> rcases he with rfl | rfl <;> rfl

end Depth

/-- Something before the end of a text, but not nothing, closes all that it opens. -/
def ClosedEarly (s : List Char) : Prop :=
  ∃ p r, s = p ++ r ∧ p ≠ [] ∧ r ≠ [] ∧ Depth.ground.after p = Depth.ground

/-- The last sign of two texts is the last one of the second text, or else that of the first. -/
theorem findMarkerFrom_append (d : Depth) (s t : List Char) :
    findMarkerFrom d (s ++ t) =
      ((findMarkerFrom (d.after s) t).map (· + s.length)).or (findMarkerFrom d s) := by
  induction s generalizing d with
  | nil => simp [findMarkerFrom, Depth.after]
  | cons c s ih =>
    rw [List.cons_append, findMarkerFrom, ih, findMarkerFrom]
    cases h : findMarkerFrom ((d.step c).after s) t with
    | some n =>
      have h' : findMarkerFrom (d.after (c :: s)) t = some n := h
      simp [h', Nat.add_assoc]
    | none =>
      have h' : findMarkerFrom (d.after (c :: s)) t = none := h
      simp [h']

theorem findMarkerFrom_append_eq_none_iff {d : Depth} {s t : List Char} :
    findMarkerFrom d (s ++ t) = none ↔
      findMarkerFrom (d.after s) t = none ∧ findMarkerFrom d s = none := by
  rw [findMarkerFrom_append, Option.or_eq_none_iff, Option.map_eq_none_iff]

theorem findMarkerFrom_of_notMem {s : List Char} (hs : '@' ∉ s) (d : Depth) :
    findMarkerFrom d s = none := by
  induction s generalizing d with
  | nil => rfl
  | cons c s ih =>
    rw [List.mem_cons, not_or] at hs
    rw [findMarkerFrom, ih hs.2]
    exact if_neg fun h => hs.1 h.1.symm

/-- There is no sign that counts exactly if the scan is at the ground before none. -/
theorem findMarkerFrom_eq_none_iff {d : Depth} {s : List Char} :
    findMarkerFrom d s = none ↔ ∀ p r, s = p ++ '@' :: r → d.after p ≠ Depth.ground := by
  constructor
  · rintro h p r rfl hground
    have hsign := (findMarkerFrom_append_eq_none_iff.1 h).1
    rw [hground, findMarkerFrom] at hsign
    split at hsign
    · cases hsign
    · rw [if_pos ⟨rfl, rfl⟩] at hsign
      cases hsign
  · intro h
    induction s generalizing d with
    | nil => rfl
    | cons c s ih =>
      have hrest : findMarkerFrom (d.step c) s = none := by
        refine ih fun p r hs => ?_
        exact h (c :: p) r (by rw [hs, List.cons_append])
      rw [findMarkerFrom, hrest]
      refine if_neg ?_
      rintro ⟨rfl, hground⟩
      exact h [] s rfl hground

/-- A sign stands inside the text. -/
theorem lt_of_findMarkerFrom {d : Depth} {s : List Char} {n : Nat}
    (h : findMarkerFrom d s = some n) : n < s.length := by
  induction s generalizing d n with
  | nil => cases h
  | cons c s ih =>
    rw [findMarkerFrom] at h
    split at h
    · rename_i k hk
      obtain rfl := Option.some.inj h
      exact Nat.succ_lt_succ (ih hk)
    · split_ifs at h
      obtain rfl := Option.some.inj h
      exact Nat.succ_pos _

/-- A sign with no other after it, before which the scan is at the ground, is the last one. -/
theorem findMarker_append_sign {s t : List Char} (hs : Depth.ground.after s = Depth.ground)
    (ht : findMarker t = none) : findMarker (s ++ '@' :: t) = some s.length := by
  have hsign : findMarkerFrom Depth.ground ('@' :: t) = some 0 := by
    rw [findMarkerFrom, show Depth.ground.step '@' = Depth.ground from rfl, ← findMarker, ht]
    rfl
  rw [findMarker, findMarkerFrom_append, hs, hsign]
  simp

end Extraction.Query
