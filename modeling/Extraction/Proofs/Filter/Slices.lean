import Extraction.Filter.Registry
import Extraction.Proofs.Filter.Integers

/-!
# Runs of items between two positions

A text, a list or a tuple is cut at positions that are counted from the start, or from the end if
they are negative, and kept within bounds. Every position has a place between two items in that way.
What is before the place of a position and what is behind it make up the whole; what is between the
places of two positions is the contiguous run from the one to the other, and nothing if the second
does not come after the first.

## Main definitions

* `Filter.SequenceKind` : texts, lists and tuples as one kind of value each, with
  `Filter.SequenceKind.value`.

## Main results

* `Filter.sliceItems_append` : the two parts of a cut.
* `Filter.exists_eq_append_sliceItems`, `Filter.sliceItems_eq_nil` : the run between two positions.
* `Filter.Builtin.run_slice` : the filter on all positions.
-/

namespace Extraction.Filter

/-! ### Items -/

section Items

variable {α : Type} (xs : List α)

theorem clampIndex_le (length : Nat) (i : Int) : clampIndex length i ≤ length :=
  Nat.min_le_right _ _

/-- The items before a position and those behind it are all items. -/
theorem sliceItems_append (i : Int) : sliceItems xs 0 (some i) ++ sliceItems xs i none = xs := by
  have hzero : clampIndex xs.length 0 = 0 := by simp [clampIndex]
  have hall : xs.take xs.length = xs := List.take_length
  simp only [sliceItems, hzero, Option.map_some, Option.getD_some, Option.map_none,
    Option.getD_none, List.drop_zero, hall]
  exact List.take_append_drop _ xs

variable {xs} {i j : Int}

/-- Between two positions of which the first does not come after the second stands the run from the
place of the first up to that of the second. -/
theorem exists_eq_append_sliceItems (h : clampIndex xs.length i ≤ clampIndex xs.length j) :
    ∃ before after, xs = before ++ sliceItems xs i (some j) ++ after ∧
      before.length = clampIndex xs.length i ∧
      before.length + (sliceItems xs i (some j)).length = clampIndex xs.length j := by
  have hj := clampIndex_le xs.length j
  refine ⟨xs.take (clampIndex xs.length i), xs.drop (clampIndex xs.length j), ?_, ?_, ?_⟩
  · have hbefore : xs.take (clampIndex xs.length i) =
        (xs.take (clampIndex xs.length j)).take (clampIndex xs.length i) := by
      rw [List.take_take, Nat.min_eq_left h]
    rw [sliceItems, Option.map_some, Option.getD_some, hbefore, List.take_append_drop,
      List.take_append_drop]
  · rw [List.length_take]
    omega
  · simp only [sliceItems, Option.map_some, Option.getD_some, List.length_take, List.length_drop]
    omega

/-- Between two positions of which the second does not come after the first stands nothing. -/
theorem sliceItems_eq_nil (h : clampIndex xs.length j ≤ clampIndex xs.length i) :
    sliceItems xs i (some j) = [] := by
  refine List.drop_eq_nil_of_le ((List.length_take_le _ _).trans ?_)
  rwa [Option.map_some, Option.getD_some]

end Items

/-! ### Values with items -/

/-- The kinds of values that have characters or items in a row. -/
inductive SequenceKind where
  | text
  | list
  | tuple
  deriving DecidableEq, Repr

namespace SequenceKind

/-- What values of a kind have in a row. -/
abbrev Item : SequenceKind → Type
  | text => Char
  | list => Value
  | tuple => Value

/-- The value of a kind with the given characters or items. -/
def value : (kind : SequenceKind) → List kind.Item → Value
  | text, characters => .text (String.ofList characters)
  | list, items => .list items
  | tuple, items => .tuple items

theorem value_text (s : String) : value .text s.toList = .text s :=
  congrArg Value.text (String.ofList_toList (s := s))

end SequenceKind

open SequenceKind (value)

theorem slice_value {kind : SequenceKind} (xs : List kind.Item) {arguments : List Value}
    {start : Int} {stop : Option Int}
    (hstart : Argument.integerAt? arguments 0 = .ok (some start))
    (hstop : Argument.integerAt? arguments 1 = .ok stop) :
    slice (kind.value xs) arguments = .ok (kind.value (sliceItems xs start stop)) := by
  cases kind with
  | text =>
    simp only [slice, value, hstart, hstop, String.toList_ofList]
    rfl
  | list | tuple =>
    simp only [slice, value, hstart, hstop]
    rfl

theorem integerAt?_zero {v : Value} {i : Int} (h : Argument.Writes v i) (rest : List Value) :
    Argument.integerAt? (v :: rest) 0 = .ok (some i) :=
  Argument.integer?_of_writes h

theorem integerAt?_one {v : Value} {i : Int} (h : Argument.Writes v i) (u : Value) :
    Argument.integerAt? [u, v] 1 = .ok (some i) :=
  Argument.integer?_of_writes h

theorem Builtin.run_slice_value {kind : SequenceKind} (xs : List kind.Item)
    {arguments : List Value} (hcount : arguments.length ≤ 2) {start : Int} {stop : Option Int}
    (hstart : Argument.integerAt? arguments 0 = .ok (some start))
    (hstop : Argument.integerAt? arguments 1 = .ok stop) :
    slice.run (kind.value xs) arguments = .ok (kind.value (sliceItems xs start stop)) := by
  have harity : slice.arity.fault? arguments.length = none := by
    have hmost : ¬arguments.length + 1 > 3 := by omega
    simp [Builtin.arity, Arity.fault?, hmost]
  rw [run_of_fault?_eq_none harity]
  exact congrArg Reply.ofExcept (slice_value xs hstart hstop)

/-- **Cutting at positions.** Take any text, list or tuple. Wherever it is cut, at a position
written by any numeral of at most 1000 characters, the run from the start up to the position and the
run from there on make up the whole. Between two positions, given as integers or by such numerals,
the filter gives the contiguous run from the place of the first up to the place of the second, and
nothing if the second place does not come after the first; a place is a position, from the end if it
is negative, kept within bounds. -/
theorem Builtin.run_slice (kind : SequenceKind) (xs : List kind.Item) :
    (∀ n : Integer.Numeral, n.text.length ≤ 1000 →
        ∃ front back, front ++ back = xs ∧
          slice.run (kind.value xs) [.text "0", .text n.text] = .ok (kind.value front) ∧
          slice.run (kind.value xs) [.text n.text] = .ok (kind.value back)) ∧
      ∀ a b i j, Argument.Writes a i → Argument.Writes b j →
        ∃ run, slice.run (kind.value xs) [a, b] = .ok (kind.value run) ∧
          (clampIndex xs.length i ≤ clampIndex xs.length j →
            ∃ before after, xs = before ++ run ++ after ∧
              before.length = clampIndex xs.length i ∧
              before.length + run.length = clampIndex xs.length j) ∧
          (clampIndex xs.length j ≤ clampIndex xs.length i → run = []) := by
  constructor
  · intro n hn
    have hwrites := Argument.Writes.numeral n hn
    have hzero : Argument.integerAt? [.text "0", .text n.text] 0 = .ok (some 0) := rfl
    exact ⟨_, _, sliceItems_append xs n.value,
      run_slice_value xs (le_refl _) hzero (integerAt?_one hwrites _),
      run_slice_value xs (by simp) (integerAt?_zero hwrites []) rfl⟩
  · intro a b i j ha hb
    exact ⟨_, run_slice_value xs (le_refl _) (integerAt?_zero ha [b]) (integerAt?_one hb a),
      exists_eq_append_sliceItems, sliceItems_eq_nil⟩

/-- A text is cut at a position that is written with blanks, a sign and a low line; and the first
position lies before the start, and behind the second one. -/
theorem Builtin.run_slice_catalog :
    let n : Integer.Numeral :=
      ⟨[' '], .plus, ['0', '_', '3'], ['0', '3'], ['\t'], rfl, rfl, .line rfl (.digit rfl)⟩
    n.text = " +0_3\t" ∧ n.text.length ≤ 1000 ∧ Argument.Writes (.text n.text) 3 ∧
      (∃ front back, front ++ back = "catalog".toList ∧
        slice.run (.text "catalog") [.text "0", .text n.text] = .ok (.text (String.ofList front)) ∧
        slice.run (.text "catalog") [.text n.text] = .ok (.text (String.ofList back))) ∧
      slice.run (.text "catalog") [.int (-100), .text n.text] = .ok (.text "cat") ∧
      slice.run (.text "catalog") [.int (-1), .text n.text] = .ok (.text "") := by
  intro n
  have htext : n.text = " +0_3\t" :=
    congrArg String.ofList (show _ = [' ', '+', '0', '_', '3', '\t'] from rfl)
  have hlength : n.text.length ≤ 1000 := htext ▸ by decide
  have hwrites : Argument.Writes (.text n.text) 3 := .numeral n hlength
  obtain ⟨hcut, hbetween⟩ := Builtin.run_slice .text "catalog".toList
  rw [SequenceKind.value_text] at hcut hbetween
  obtain ⟨run, hrun, hplace, -⟩ := hbetween _ _ _ _ (.int (-100)) hwrites
  obtain ⟨before, after, hall, hbefore, hcount⟩ := hplace (by decide)
  have hcat : run = "cat".toList := by
    obtain rfl : before = [] := List.eq_nil_of_length_eq_zero hbefore
    have hthree : run.length = 3 := (Nat.zero_add _).symm.trans hcount
    have htake := congrArg (List.take 3) hall
    rwa [List.nil_append, List.take_left' hthree, eq_comm] at htake
  obtain ⟨none, hnone, -, hempty⟩ := hbetween _ _ _ _ (.int (-1)) hwrites
  refine ⟨htext, hlength, hwrites, hcut n hlength, ?_, ?_⟩
  · rw [hcat, SequenceKind.value_text] at hrun
    exact hrun
  · rw [hempty (by decide)] at hnone
    exact hnone

end Extraction.Filter
