import Extraction.Filter.Registry
import Extraction.Proofs.Filter.Dates
import Extraction.Proofs.Filter.Numeric
import Extraction.Proofs.Filter.Sequences
import Extraction.Proofs.Filter.Sizes

/-!
# What filters fail on

Each built-in filter without arguments fails in a few ways of its own. They come down to values
without a plain text, numbers out of range, moments that cannot be compared and texts at which the
reader of dates breaks off, apart from the arguments that two filters need.

## Main definitions

* `Filter.Builtin.FailsOn` : what a filter without arguments fails on, and how.

## Main results

* `Filter.Builtin.outcome_run_nil` : a filter fails in these ways and no other.
-/

namespace Extraction.Filter

/-- What a built-in filter without arguments fails on, and how. -/
inductive Builtin.FailsOn [Engines] : Builtin → Value → Fault → Prop
  /-- The filter needs an argument. -/
  | argument {b : Builtin} {v : Value} {f : Fault} : b.arity.fault? 0 = some f → FailsOn b v f
  /-- A numeral is looked for in the plain text of a value that has none. -/
  | numeral {b : Builtin} {v : Value} {f : Fault} :
      b = .toInteger ∨ b = .toFloat → v.Unwritten f → FailsOn b v f
  /-- The first run of digits is too long for an integer. -/
  | digits {v : Value} {s : String} : v.plainText = .ok s →
      (firstDigits s.toList).length > Integer.maxDigits →
      FailsOn .toInteger v (.integerTooLong (firstDigits s.toList).length)
  /-- An item that is joined has no plain text. -/
  | item {v : Value} {f : Fault} :
      OnItems (FirstAmiss Value.Unwritten · f) v → FailsOn .join v f
  /-- An item cannot be told from one before it. -/
  | compared {v : Value} {f : Fault} :
      OnItems (FirstClash · f) v → FailsOn .unique v f
  /-- An item has no place in the order. -/
  | ordered {v : Value} {f : Fault} : OnItems (FirstAmiss Unordered · f) v → FailsOn .sort v f
  /-- An integer is beyond the range of double-precision numbers. -/
  | range {n : Int} : Binary64.overflowBound ≤ n.natAbs →
      FailsOn .number (.int n) .integerTooLarge
  /-- A number is looked for in the plain text of a value that has none. -/
  | number {v : Value} {f : Fault} : (∀ n, v ≠ .int n) → v.Unwritten f → FailsOn .number v f
  /-- A date is looked for in the plain text of a value that has none. -/
  | date {v : Value} {f : Fault} : (∀ m, v ≠ .moment m) → v.Unwritten f → FailsOn .date v f
  /-- The reader of dates breaks off in the search for a date in the plain text of a value. -/
  | reader {v : Value} {t : String} {f : Fault} : isSearched v = true → v.plainText = .ok t →
      Interrupted t.toList f → FailsOn .date v f
  /-- A size has too many bytes. -/
  | size {s : String} {parts : SizeParts} : sizeParts? s.toList = some parts → parts.Overflows →
      FailsOn .size (.text s) .infiniteNumber

theorem Builtin.outcome_run_error_iff [Engines] (b : Builtin) (v : Value) (f : Fault) :
    (b.run v []).outcome = .error f ↔ b.FailsOn v f := by
  constructor
  · intro h
    cases b with
    | regex | replace => exact .argument (congrArg some (Except.error.inj h))
    | toInteger =>
      rcases toInteger_nil_error_iff.1 h with hv | ⟨s, hs, hlong, rfl⟩
      · exact .numeral (.inl rfl) hv
      · exact .digits hs hlong
    | toFloat => exact .numeral (.inr rfl) (toFloat_nil_error_iff.1 h)
    | number =>
      rcases floatOf_error_iff.1 (number_nil_error_iff.1 h) with ⟨n, rfl, hn, rfl⟩ | ⟨hint, hv⟩
      · exact .range hn
      · exact .number hint hv
    | date =>
      rcases date_nil_error_iff.1 h with ⟨hmoment, hv⟩ | ⟨hv, t, ht, hreader⟩
      · exact .date hmoment hv
      · exact .reader hv ht hreader
    | size =>
      obtain ⟨rfl, s, parts, rfl, hparts, hover⟩ := size_error_iff.1 h
      exact .size hparts hover
    | join => exact .item (join_nil_error_iff.1 h)
    | unique => exact .compared (unique_error_iff.1 h)
    | sort => exact .ordered ((sort_error_iff []).1 h)
    | slice | split => cases v <;> cases h
    | _ => cases h
  · intro h
    cases h with
    | argument hb =>
      simp only [run, List.length_nil, hb]
      rfl
    | numeral hb hv =>
      rcases hb with rfl | rfl
      · exact toInteger_nil_error_iff.2 (.inl hv)
      · exact toFloat_nil_error_iff.2 hv
    | digits hs hlong => exact toInteger_nil_error_iff.2 (.inr ⟨_, hs, hlong, rfl⟩)
    | item hitems => exact join_nil_error_iff.2 hitems
    | compared hitems => exact unique_error_iff.2 hitems
    | ordered hitems => exact (sort_error_iff []).2 hitems
    | range hn => exact number_nil_error_iff.2 (floatOf_error_iff.2 (.inl ⟨_, rfl, hn, rfl⟩))
    | number hint hv => exact number_nil_error_iff.2 (floatOf_error_iff.2 (.inr ⟨hint, hv⟩))
    | date hmoment hv => exact date_nil_error_iff.2 (.inl ⟨hmoment, hv⟩)
    | reader hv ht hreader => exact date_nil_error_iff.2 (.inr ⟨hv, _, ht, hreader⟩)
    | size hparts hover => exact size_error_iff.2 ⟨rfl, _, _, rfl, hparts, hover⟩

/-- **On what filters fail.** Take any built-in filter and any value, no arguments, and any reader
of dates. The filter fails in one of these ways and no other, and else it gives a value: it needs an
argument; it looks for a numeral or a date in the plain text of a value that has none, or joins or
orders an item that has none; the reader of dates breaks off in that text; the digits that it finds
are too many for an integer; it compares moments in different zones, one of which is a day or more
from universal time; an integer is beyond the range of double-precision numbers; or an amount times
a unit is. -/
theorem Builtin.outcome_run_nil [Engines] (b : Builtin) (v : Value) :
    (∀ f, (b.run v []).outcome = .error f ↔ b.FailsOn v f) ∧
      ((∃ w, (b.run v []).outcome = .ok w) ↔ ∀ f, ¬b.FailsOn v f) := by
  refine ⟨b.outcome_run_error_iff v, ?_⟩
  simp only [← b.outcome_run_error_iff v]
  cases (b.run v []).outcome with
  | error f => simp
  | ok w => simp

/-- The usual reader of dates breaks off at a time of day with too many digits. -/
example :
    (match (Builtin.date.run (.text "11111111111111111111111111111 h") []).outcome with
      | .ok _ => none
      | .error f => some f.kind) = some .arithmetic := by
  decide +kernel

/-- A size whose bytes are too many to be a number is neither given nor left as it is. -/
theorem Builtin.outcome_size_exabytes :
    let s := String.ofList ('1' :: List.replicate 291 '0' ++ ['E', 'B'])
    (match (Builtin.size.run (.text s) []).outcome with
      | .ok _ => none
      | .error f => some (f.kind, f.message)) =
        some (.overflow, "cannot convert float infinity to integer") := by
  intro s
  have hparts : sizeParts? s.toList = some ⟨'1' :: List.replicate 291 '0', ['E', 'B']⟩ := by
    rw [String.toList_ofList]
    decide +kernel
  have hbytes : ((amount? ('1' :: List.replicate 291 '0')).bind fun x =>
      (unitFactor? "EB").map fun factor =>
        ((x.mul factor).add (Binary64.ofRatio false 1 2)).floor?) = some none := by decide +kernel
  obtain ⟨x, hamount, hbytes⟩ := Option.bind_eq_some_iff.1 hbytes
  obtain ⟨factor, hfactor, hfloor⟩ := Option.map_eq_some_iff.1 hbytes
  have hsize : (Builtin.size.run (.text s) []).outcome = .error .infiniteNumber := by
    refine (outcome_size hparts hamount (by decide +kernel) hfactor).trans ?_
    rw [roundHalfUp, hfloor]
  rw [hsize]
  rfl

end Extraction.Filter
