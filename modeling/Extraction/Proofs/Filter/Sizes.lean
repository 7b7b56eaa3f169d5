import Extraction.Filter.Sizes
import Extraction.Proofs.Number.Overflow

/-!
# What the filter of sizes fails on

An amount is finite, and rounding it to whole bytes stays in the range. The bytes of a unit are
exact, so that the product of the two is infinite exactly if the exact product reaches the bound.

## Main definitions

* `Filter.SizeParts.Overflows` : an amount times the bytes of its unit reaches the bound.

## Main results

* `Filter.isExact_of_unitRatio?` : the bytes of every unit are a double-precision number.
* `Filter.size_error_iff` : when the filter fails.
-/

namespace Extraction.Filter

open Text

/-- The amount of a size times the bytes of its unit, whose name has no digits, reaches the bound at
which numbers become infinite. -/
def SizeParts.Overflows (p : SizeParts) : Prop :=
  p.unit.any isDigitLike = false ∧
    ∃ x n d num den, amount? p.amount = some x ∧ x.toRatio? = some (n, d) ∧
      unitRatio? (String.ofList p.unit) = some (num, den) ∧
      Binary64.overflowBound * (d * den) ≤ n.natAbs * num

theorem roundHalfUp_error_iff {x : Binary64} (hx : x.InRange) {f : Fault} :
    roundHalfUp x = .error f ↔ f = .infiniteNumber ∧ x.isFinite = false := by
  rw [← Binary64.isFinite_add_half hx, ← Binary64.isSome_floor?, roundHalfUp]
  cases (x.add (Binary64.ofRatio false 1 2)).floor? <;> simp [eq_comm]

theorem exists_finite_of_amount? {s : List Char} {x : Binary64} (h : amount? s = some x) :
    ∃ t m e, x = .finite t m e ∧ x.InRange := by
  simp only [amount?] at h
  split at h
  · rename_i y hread
    split_ifs at h with hfinite
    obtain rfl := Option.some.inj h
    obtain ⟨d, -, rfl⟩ := Option.map_eq_some_iff.1 hread
    have hrange := Binary64.inRange_nearest d
    cases hx : d.nearest with
    | finite t m e => exact ⟨t, m, e, rfl, hx ▸ hrange⟩
    | _ =>
      rw [hx] at hfinite
      cases hfinite
  · cases h

/-- Whether a quotient is a double-precision number. -/
def isExact (num den : Nat) : Bool :=
  match Binary64.ofRatio false num den with
  | .finite _ m e => (Binary64.magnitude m e).1 * den == num * (Binary64.magnitude m e).2
  | _ => false

theorem exists_of_isExact {num den : Nat} (h : isExact num den = true) :
    ∃ t m e, Binary64.ofRatio false num den = .finite t m e ∧
      (Binary64.magnitude m e).1 * den = num * (Binary64.magnitude m e).2 := by
  unfold isExact at h
  split at h
  · rename_i t m e hratio
    exact ⟨t, m, e, hratio, eq_of_beq h⟩
  · cases h

theorem forall_mem_ite_some {α : Type} {P : α → Prop} {c : Prop} [Decidable c] {a : α}
    {o : Option α} (ha : P a) (ho : ∀ r ∈ o, P r) : ∀ r ∈ if c then some a else o, P r := by
  split_ifs
  · intro r hr
    obtain rfl := Option.some.inj hr
    exact ha
  · exact ho

/-- The bytes of every unit are a double-precision number. -/
theorem isExact_of_unitRatio? (unit : String) :
    ∀ r ∈ unitRatio? unit, isExact r.1 r.2 = true ∧ 0 < r.2 := by
  unfold unitRatio?
  iterate 14 refine forall_mem_ite_some (by decide +kernel) ?_
  simp

/-- The product of an amount and a unit is infinite exactly if the exact product reaches the
bound. -/
theorem isFinite_mul_unit {t : Bool} {m num den : Nat} {e : Int} (hexact : isExact num den = true)
    (hden : 0 < den) :
    ((Binary64.finite t m e).mul (Binary64.ofRatio false num den)).isFinite = false ↔
      Binary64.overflowBound * ((Binary64.magnitude m e).2 * den) ≤
        (Binary64.magnitude m e).1 * num := by
  obtain ⟨s, k, i, hunit, hratio⟩ := exists_of_isExact hexact
  have hpos := Binary64.magnitude_den_pos k i
  rw [hunit, Bool.eq_false_iff, ne_eq, Binary64.isFinite_mul_iff, Nat.not_lt]
  generalize Binary64.magnitude m e = x
  generalize Binary64.magnitude k i = y at *
  -- Both sides are multiplied by the denominators of the unit, as it is given and as it is kept.
  have hleft : Binary64.overflowBound * (x.2 * y.2) * den =
      Binary64.overflowBound * (x.2 * den) * y.2 := by ring
  have hright : x.1 * y.1 * den = x.1 * num * y.2 := by
    rw [Nat.mul_assoc, hratio, Nat.mul_assoc]
  rw [← Nat.mul_le_mul_right_iff hden, hleft, hright, Nat.mul_le_mul_right_iff hpos]

theorem SizeParts.overflows_iff {p : SizeParts} {t : Bool} {m num den : Nat} {e : Int}
    (hdigits : p.unit.any isDigitLike = false) (hamount : amount? p.amount = some (.finite t m e))
    (hunit : unitRatio? (String.ofList p.unit) = some (num, den)) :
    p.Overflows ↔ Binary64.overflowBound * ((Binary64.magnitude m e).2 * den) ≤
      (Binary64.magnitude m e).1 * num := by
  have habs (k : Nat) : (if t = true then -(k : Int) else k).natAbs = k := by
    split_ifs <;> simp only [Int.natAbs_neg, Int.natAbs_natCast]
  rw [Overflows, and_iff_right hdigits]
  constructor
  · rintro ⟨x, n, d, num', den', hx, hratio, hunit', hbound⟩
    obtain rfl := Option.some.inj (hamount.symm.trans hx)
    obtain ⟨rfl, rfl⟩ := Prod.mk.inj (Option.some.inj hratio)
    obtain ⟨rfl, rfl⟩ := Prod.mk.inj (Option.some.inj (hunit.symm.trans hunit'))
    rwa [habs] at hbound
  · intro hbound
    exact ⟨_, _, _, num, den, hamount, rfl, hunit, by rwa [habs]⟩

/-- A size with a unit that is known is rounded from its amount times the bytes of the unit. -/
theorem outcome_size {s : String} {p : SizeParts} {x factor : Binary64}
    (hparts : sizeParts? s.toList = some p) (hamount : amount? p.amount = some x)
    (hdigits : p.unit.any isDigitLike = false)
    (hfactor : unitFactor? (String.ofList p.unit) = some factor) :
    (size (.text s)).outcome = roundHalfUp (x.mul factor) := by
  have hunit : p.unit ≠ [] := fun hnil => by
    have hno : unitFactor? (String.ofList []) = none := by decide +kernel
    rw [hnil, hno] at hfactor
    cases hfactor
  rw [size, hparts]
  simp [hamount, hdigits, hunit, hfactor, Reply.ofExcept]

theorem size_text_error_iff {s : String} {p : SizeParts} (hparts : sizeParts? s.toList = some p)
    {f : Fault} :
    (size (.text s)).outcome = .error f ↔ f = .infiniteNumber ∧ p.Overflows := by
  cases hamount : amount? p.amount with
  | none =>
    refine iff_of_false (by simp [size, hparts, hamount, Reply.warn])
      fun ⟨_, _, x, _, _, _, _, hx, _⟩ => ?_
    rw [hamount] at hx
    cases hx
  | some x =>
    obtain ⟨t, m, e, rfl, hrange⟩ := exists_finite_of_amount? hamount
    cases hdigits : p.unit.any isDigitLike with
    | true =>
      refine iff_of_false (by simp [size, hparts, hamount, hdigits, Reply.warn])
        fun ⟨_, hnone, _⟩ => ?_
      rw [hdigits] at hnone
      cases hnone
    | false =>
      cases hunit : unitRatio? (String.ofList p.unit) with
      | some r =>
        obtain ⟨hexact, hden⟩ := isExact_of_unitRatio? _ r hunit
        have hfactor : unitFactor? (String.ofList p.unit) =
            some (Binary64.ofRatio false r.1 r.2) := by
          rw [unitFactor?, hunit]
          rfl
        rw [outcome_size hparts hamount hdigits hfactor,
          SizeParts.overflows_iff hdigits hamount hunit, ← isFinite_mul_unit hexact hden]
        exact roundHalfUp_error_iff (Binary64.inRange_mul _ _)
      | none =>
        refine iff_of_false (fun h => ?_) fun ⟨_, _, _, _, _, _, _, _, _, hsome, _⟩ => ?_
        · simp only [size, hparts, hamount, hdigits, unitFactor?, hunit] at h
          cases hempty : p.unit.isEmpty with
          | true =>
            rw [hempty] at h
            cases ((roundHalfUp_error_iff hrange).1 h).2
          | false =>
            rw [hempty] at h
            cases h
        · rw [hunit] at hsome
          cases hsome

/-- A size cannot be given exactly if it overflows. -/
theorem size_error_iff {v : Value} {f : Fault} :
    (size v).outcome = .error f ↔ f = .infiniteNumber ∧
      ∃ s parts, v = .text s ∧ sizeParts? s.toList = some parts ∧ parts.Overflows := by
  cases v with
  | text s =>
    cases hparts : sizeParts? s.toList with
    | none => simp [size, hparts, Reply.warn]
    | some p => simpa [hparts] using size_text_error_iff hparts
  | _ => simp [size, Reply.ok]

end Extraction.Filter
