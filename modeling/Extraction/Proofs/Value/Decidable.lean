import Extraction.Failure

/-!
# Equality of values can be decided

Two values are the same if they are built alike. This is finer than the equality of values as
numbers and maps, which `Value.equal` decides. With it, what a computation gives can be compared
with what it should give.

## Main definitions

* `Value.same` : whether two values are built alike.

## Main results

* `Value.same_eq_true_iff` : values that are built alike are the same value.
-/

namespace Extraction

namespace Value

mutual

/-- Whether two values are built alike. -/
def same : Value → Value → Bool
  | .null, .null => true
  | .bool a, .bool b => a == b
  | .int a, .int b => a == b
  | .float a, .float b => a == b
  | .text a, .text b => a == b
  | .bytes a, .bytes b => a == b
  | .moment a, .moment b => decide (a = b)
  | .list as, .list bs => sameItems as bs
  | .tuple as, .tuple bs => sameItems as bs
  | .set as, .set bs => sameItems as bs
  | .map as, .map bs => sameEntries as bs
  | .function f as, .function g bs => f == g && sameItems as bs
  | _, _ => false

/-- Whether two lists of values are built alike. -/
def sameItems : List Value → List Value → Bool
  | [], [] => true
  | a :: as, b :: bs => same a b && sameItems as bs
  | _, _ => false

/-- Whether the entries of two maps are built alike. -/
def sameEntries : List (Value × Value) → List (Value × Value) → Bool
  | [], [] => true
  | (k, v) :: as, (l, w) :: bs => same k l && same v w && sameEntries as bs
  | _, _ => false

end

mutual

private theorem eq_of_same : (a b : Value) → same a b = true → a = b
  | .null, b => by cases b <;> simp [same]
  | .bool _, b => by cases b <;> simp [same]
  | .int _, b => by cases b <;> simp [same]
  | .float _, b => by cases b <;> simp [same]
  | .text _, b => by cases b <;> simp [same]
  | .bytes _, b => by cases b <;> simp [same]
  | .moment _, b => by cases b <;> simp [same]
  | .list as, b => by
    cases b <;> simp only [same, Bool.false_eq_true, false_implies, list.injEq, reduceCtorEq]
    exact eq_of_sameItems as _
  | .tuple as, b => by
    cases b <;> simp only [same, Bool.false_eq_true, false_implies, tuple.injEq, reduceCtorEq]
    exact eq_of_sameItems as _
  | .set as, b => by
    cases b <;> simp only [same, Bool.false_eq_true, false_implies, set.injEq, reduceCtorEq]
    exact eq_of_sameItems as _
  | .map as, b => by
    cases b <;> simp only [same, Bool.false_eq_true, false_implies, map.injEq, reduceCtorEq]
    exact eq_of_sameEntries as _
  | .function f as, b => by
    cases b <;> simp only [same, Bool.false_eq_true, false_implies, function.injEq, reduceCtorEq,
      Bool.and_eq_true, beq_iff_eq]
    exact fun h => ⟨h.1, eq_of_sameItems as _ h.2⟩

private theorem eq_of_sameItems : (as bs : List Value) → sameItems as bs = true → as = bs
  | [], bs => by cases bs <;> simp [sameItems]
  | a :: as, bs => by
    cases bs <;> simp only [sameItems, Bool.false_eq_true, false_implies, List.cons.injEq,
      Bool.and_eq_true, reduceCtorEq]
    exact fun h => ⟨eq_of_same a _ h.1, eq_of_sameItems as _ h.2⟩

private theorem eq_of_sameEntries :
    (as bs : List (Value × Value)) → sameEntries as bs = true → as = bs
  | [], bs => by cases bs <;> simp [sameEntries]
  | (k, v) :: as, bs => by
    rcases bs with - | ⟨⟨l, w⟩, bs⟩
    · simp [sameEntries]
    · simp only [sameEntries, List.cons.injEq, Prod.mk.injEq, Bool.and_eq_true]
      exact fun h =>
        ⟨⟨eq_of_same k l h.1.1, eq_of_same v w h.1.2⟩, eq_of_sameEntries as bs h.2⟩

end

mutual

private theorem same_self : (a : Value) → same a a = true
  | .null => rfl
  | .bool _ | .int _ | .float _ | .text _ | .bytes _ | .moment _ => by simp [same]
  | .list as | .tuple as | .set as => by
    rw [same]
    exact sameItems_self as
  | .map as => by
    rw [same]
    exact sameEntries_self as
  | .function f as => by
    rw [same, sameItems_self as]
    simp

private theorem sameItems_self : (as : List Value) → sameItems as as = true
  | [] => rfl
  | a :: as => by rw [sameItems, same_self a, sameItems_self as, Bool.and_self]

private theorem sameEntries_self : (as : List (Value × Value)) → sameEntries as as = true
  | [] => rfl
  | (k, v) :: as => by
    rw [sameEntries, same_self k, same_self v, sameEntries_self as, Bool.and_self, Bool.and_self]

end

/-- Values that are built alike are the same value. -/
theorem same_eq_true_iff {a b : Value} : same a b = true ↔ a = b :=
  ⟨eq_of_same a b, fun h => h ▸ same_self a⟩

instance decidableEqValue : DecidableEq Value := fun _ _ =>
  decidable_of_iff _ same_eq_true_iff

end Value

/-- Whether an outcome is a given success can be decided, whatever failures are. -/
instance decidableEqOk {ε α : Type} [DecidableEq α] (r : Except ε α) (a : α) :
    Decidable (r = .ok a) :=
  match r with
  | .ok b => decidable_of_iff (b = a) (by rw [Except.ok.injEq])
  | .error _ => isFalse (by simp)

end Extraction
