import Extraction.Proofs.Query.Marker
import Mathlib.Data.List.Infix

/-!
# Blocks that hide the attribute sign

A block begins with an opening bracket or parenthesis or with a quote, and a scan of it alone is at
the ground again after its last character and not before. Inside a block the scan is never at the
ground, so no at sign in it counts; and it leaves the scan as it was, so what stands before and
after it is judged as if the block were not there. What is between two quotes has no part in this:
until the quote is closed no character changes the state, brackets among them, and a block remains
one whatever is put between its quotes.

## Main definitions

* `Query.Block` : texts that close what they open with their last character.

## Main results

* `Query.Depth.after_quoted` : what is between quotes changes no state.
* `Query.Block.findMarker_eq_none` : no sign in a block counts.
* `Query.Block.requoted` : other text between the quotes of a block makes another block.
* `Query.Block.findMarker_append` : the sign of a text by what stands before and after a block.
* `Query.findMarker_append_block` : the sign of a text with a block in it.
-/

namespace Extraction.Query

/-- Whether a character opens a bracket, a parenthesis or a quote. -/
def isOpening (c : Char) : Bool :=
  c ∈ ['[', '(', '\'', '"']

/-- A text that begins by opening a bracket, a parenthesis or a quote, and of which the whole closes
all that it opens but no beginning does. -/
structure Block (b : List Char) : Prop where
  /-- The first character opens something. -/
  opens : b.head?.any isOpening = true
  /-- At the end nothing is open. -/
  closes : Depth.ground.after b = Depth.ground
  /-- Before the end something is open. -/
  not_early : ¬ClosedEarly b

theorem closedEarly_iff_inits {s : List Char} :
    ClosedEarly s ↔ ∃ p ∈ s.inits, p ≠ [] ∧ p ≠ s ∧ Depth.ground.after p = Depth.ground := by
  constructor
  · rintro ⟨p, r, rfl, hp, hr, hground⟩
    refine ⟨p, (List.mem_inits p _).2 (List.prefix_append p r), hp, ?_, hground⟩
    simpa using hr
  · rintro ⟨p, hmem, hp, hne, hground⟩
    obtain ⟨r, rfl⟩ := (List.mem_inits p s).1 hmem
    refine ⟨p, r, rfl, hp, ?_, hground⟩
    simpa using hne

instance decidableClosedEarly : DecidablePred ClosedEarly := fun _ =>
  decidable_of_iff' _ closedEarly_iff_inits

instance decidableBlock : DecidablePred Block := fun b =>
  decidable_of_iff (b.head?.any isOpening = true ∧ Depth.ground.after b = Depth.ground ∧
      ¬ClosedEarly b)
    ⟨fun ⟨ho, hc, he⟩ => ⟨ho, hc, he⟩, fun h => ⟨h.opens, h.closes, h.not_early⟩⟩

/-! ### Quotes -/

namespace Depth

/-- An open quote stays open until it comes again. -/
theorem after_of_open {depth : Nat} {q : Char} {s : List Char} (hs : q ∉ s) :
    after ⟨depth, some q⟩ s = ⟨depth, some q⟩ := by
  induction s with
  | nil => rfl
  | cons c s ih =>
    rw [List.mem_cons, not_or] at hs
    have hstep : step ⟨depth, some q⟩ c = ⟨depth, some q⟩ := if_neg (Ne.symm hs.1)
    rw [after, List.foldl_cons, hstep]
    exact ih hs.2

theorem after_quote {d : Depth} (hd : d.quote = none) {q : Char} (hq : q = '\'' ∨ q = '"')
    {s : List Char} (hs : q ∉ s) : d.after (q :: s) = ⟨d.depth, some q⟩ := by
  obtain ⟨depth, quote⟩ := d
  obtain rfl : quote = none := hd
  have hstep : step ⟨depth, none⟩ q = ⟨depth, some q⟩ := by rcases hq with rfl | rfl <;> rfl
  rw [after, List.foldl_cons, hstep]
  exact after_of_open hs

theorem after_quote_ne_ground {d : Depth} (hd : d.quote = none) {q : Char}
    (hq : q = '\'' ∨ q = '"') {s : List Char} (hs : q ∉ s) : d.after (q :: s) ≠ ground := by
  intro h
  rw [after_quote hd hq hs] at h
  cases congrArg quote h

/-- What is between two quotes changes no state. -/
theorem after_quoted {d : Depth} (hd : d.quote = none) {q : Char} (hq : q = '\'' ∨ q = '"')
    {s : List Char} (hs : q ∉ s) (r : List Char) : d.after (q :: s ++ q :: r) = d.after r := by
  have hclose : step ⟨d.depth, some q⟩ q = d := by
    obtain ⟨depth, quote⟩ := d
    obtain rfl : quote = none := hd
    exact if_pos rfl
  rw [after_append, after_quote hd hq hs, after, List.foldl_cons, hclose, after]

end Depth

/-- Where a text with a quoted part ends early, it does so outside of the quotes. -/
theorem closedEarly_quoted_iff {x s y : List Char} {q : Char} (hq : q = '\'' ∨ q = '"')
    (hx : (Depth.ground.after x).quote = none) (hs : q ∉ s) :
    ClosedEarly (x ++ (q :: s ++ q :: y)) ↔
      (∃ p r, x = p ++ r ∧ p ≠ [] ∧ Depth.ground.after p = Depth.ground) ∨
        ∃ p r, y = p ++ r ∧ r ≠ [] ∧ Depth.ground.after (x ++ p) = Depth.ground := by
  constructor
  · rintro ⟨p, r, hpr, hp, hr, hground⟩
    obtain ⟨m, rfl, hm⟩ | ⟨m, rfl, -⟩ := List.append_eq_append_iff.1 hpr
    · rw [Depth.after_append] at hground
      obtain ⟨n, rfl, hn⟩ | ⟨n, hn, -⟩ := List.append_eq_append_iff.1 hm
      · cases n with
        | nil =>
          rw [List.append_nil] at hground
          exact absurd hground (Depth.after_quote_ne_ground hx hq hs)
        | cons c n =>
          obtain ⟨rfl, rfl⟩ := List.cons.inj hn
          rw [Depth.after_quoted hx hq hs] at hground
          exact .inr ⟨n, r, rfl, hr, by rwa [Depth.after_append]⟩
      · cases m with
        | nil => exact .inl ⟨x, [], by simp, by simpa using hp, hground⟩
        | cons c m =>
          obtain ⟨rfl, rfl⟩ := List.cons.inj hn
          have hm : q ∉ m := fun h => hs (List.mem_append_left n h)
          exact absurd hground (Depth.after_quote_ne_ground hx hq hm)
    · exact .inl ⟨p, m, rfl, hp, hground⟩
  · rintro (⟨p, r, rfl, hp, hground⟩ | ⟨p, r, rfl, hr, hground⟩)
    · exact ⟨p, r ++ (q :: s ++ q :: y), by simp, hp, by simp, hground⟩
    · refine ⟨x ++ (q :: s ++ q :: p), r, by simp, by simp, hr, ?_⟩
      rwa [Depth.after_append, Depth.after_quoted hx hq hs, ← Depth.after_append]

namespace Block

variable {b : List Char}

/-- Other text between the quotes of a block makes another block. -/
theorem requoted {x s t y : List Char} {q : Char} (hq : q = '\'' ∨ q = '"')
    (hx : (Depth.ground.after x).quote = none) (hs : q ∉ s) (ht : q ∉ t)
    (h : Block (x ++ (q :: s ++ q :: y))) : Block (x ++ (q :: t ++ q :: y)) where
  opens := by
    have hopens := h.opens
    cases x with
    | nil => exact hopens
    | cons c x => exact hopens
  closes := by
    have hcloses := h.closes
    rwa [Depth.after_append, Depth.after_quoted hx hq hs, ← Depth.after_quoted hx hq ht,
      ← Depth.after_append] at hcloses
  not_early := by
    rw [closedEarly_quoted_iff hq hx ht, ← closedEarly_quoted_iff hq hx hs]
    exact h.not_early

/-- No sign in a block counts. -/
theorem findMarker_eq_none (hb : Block b) : findMarker b = none := by
  refine findMarkerFrom_eq_none_iff.2 ?_
  rintro p r rfl hground
  refine hb.not_early ⟨p, '@' :: r, rfl, ?_, by simp, hground⟩
  rintro rfl
  have hopens : isOpening '@' = true := hb.opens
  revert hopens
  decide

/-- A sign after a block counts before all others, and those before it are left as they are. -/
theorem findMarker_append {u : List Char} (hu : Depth.ground.after u = Depth.ground)
    (hb : Block b) (v : List Char) :
    findMarker (u ++ b ++ v) =
      ((findMarker v).map (· + (u.length + b.length))).or (findMarker u) := by
  have hground : Depth.ground.after (u ++ b) = Depth.ground := by
    rw [Depth.after_append, hu, hb.closes]
  have hbefore : findMarkerFrom Depth.ground (u ++ b) = findMarker u := by
    rw [findMarkerFrom_append, hu, ← findMarker, hb.findMarker_eq_none, Option.map_none,
      Option.none_or, findMarker]
  rw [findMarker, findMarkerFrom_append, hground, hbefore, List.length_append, ← findMarker]

end Block

/-- **A block hides its at signs.** Take any text, then a block, then any other text, where all that
the first text opens is closed before the block begins. The last at sign of the whole that counts is
that of the text after the block, or if there is none that of the text before it; it is never one of
the block. What is between quotes in the block is not looked at: with any other text there, brackets
and at signs or not, the block is still a block. -/
theorem findMarker_append_block {u b : List Char} (hu : Depth.ground.after u = Depth.ground)
    (hb : Block b) (v : List Char) :
    (∀ n, findMarker v = some n → findMarker (u ++ b ++ v) = some (u.length + b.length + n)) ∧
      (findMarker v = none → findMarker (u ++ b ++ v) = findMarker u) ∧
      (∀ n, findMarker (u ++ b ++ v) = some n → n < u.length ∨ u.length + b.length ≤ n) ∧
      ∀ x q s t y, b = x ++ (q :: s ++ q :: y) → (q = '\'' ∨ q = '"') →
        (Depth.ground.after x).quote = none → q ∉ s → q ∉ t → Block (x ++ (q :: t ++ q :: y)) := by
  have hmarker := Block.findMarker_append hu hb v
  refine ⟨fun n hn => ?_, fun hn => ?_, fun n hn => ?_, ?_⟩
  · rw [hmarker, hn, Option.map_some, Option.some_or, Nat.add_comm]
  · rw [hmarker, hn, Option.map_none, Option.none_or]
  · rw [hmarker] at hn
    cases hv : findMarker v with
    | none =>
      rw [hv, Option.map_none, Option.none_or] at hn
      exact .inl (lt_of_findMarkerFrom hn)
    | some k =>
      rw [hv, Option.map_some, Option.some_or] at hn
      obtain rfl := Option.some.inj hn
      exact .inr (Nat.le_add_left _ k)
  · rintro x q s t y rfl hq hx hs ht
    exact hb.requoted hq hx hs ht

/-- A condition with a bracket and a sign in its quotes, between two signs that count. -/
theorem findMarker_append_block_condition :
    let u := "a@b ".toList
    let b := "[c=\"](@\"]".toList
    Depth.ground.after u = Depth.ground ∧ Block b ∧
      findMarker (u ++ b ++ "@d".toList) = some 13 ∧ findMarker (u ++ b) = some 1 ∧
      Block "[c=\"@[\"]".toList := by
  intro u b
  have hu : Depth.ground.after u = Depth.ground := by decide
  have hb : Block b := by decide +kernel
  obtain ⟨hafter, -, -, hquotes⟩ := findMarker_append_block hu hb "@d".toList
  have hbefore := (findMarker_append_block hu hb []).2.1 rfl
  rw [List.append_nil] at hbefore
  refine ⟨hu, hb, hafter 0 (by decide), hbefore.trans (by decide), ?_⟩
  exact hquotes "[c=".toList '"' "](@".toList "@[".toList "]".toList (by decide) (.inr rfl)
    (by decide) (by decide) (by decide)

end Extraction.Query
