import Extraction.Proofs.Evaluation.Trace
import Mathlib.Tactic.SplitIfs

/-!
# Stores that reading has filled

A store is shared by all who read queries with it. What they do to it is to read a query, which may
put its descriptor in, and to clear it. Whatever they have done, and also where reading has failed
or the store was full, every descriptor in the store is the one that its key is read as: a store
says nothing that reading would not say again.

## Main definitions

* `Query.Use` : what is done to a store, with `Query.Cache.use`.
* `Query.Cache.filled` : a store after several uses.
* `Query.Cache.Faithful` : every descriptor is the one that its key is read as.

## Main results

* `Query.Cache.get?_put` : what is found after a descriptor has been put in.
* `Query.Cache.faithful_filled` : a store that reading has filled is faithful.
-/

namespace Extraction.Query

/-- What is done to a store by those who share it. -/
inductive Use where
  /-- A query is read by way of the store. -/
  | read (query : Value)
  /-- The store is cleared. -/
  | clear

namespace Cache

/-- A store after it has been used. -/
def use (c : Cache) : Use → Cache
  | .read query => ((parse query).runFrom ⟨c, []⟩).2.cache
  | .clear => c.clear

/-- A store of a capacity, empty at first, after several uses. -/
def filled (capacity : Int) (uses : List Use) : Cache :=
  uses.foldl use (.empty capacity)

/-- Every descriptor in the store is the one that its key is read as. -/
def Faithful (c : Cache) : Prop :=
  ∀ key d, c.get? key = some d → Descriptor.read key.toList = .ok d

@[simp] theorem get?_clear (c : Cache) (key : String) : c.clear.get? key = none :=
  rfl

theorem get?_add {c : Cache} {key : String} (absent : ¬c.contains key)
    (room : c.size < c.capacity) (d : Descriptor) (k : String) :
    (c.add key d absent room).get? k = (c.get? k).or (if k = key then some d else none) := by
  simp only [get?, add, List.lookup_append]
  by_cases hk : k = key
  · subst hk
    simp
  · simp [List.lookup_cons, hk, beq_false_of_ne hk]

/-- A descriptor that is put into a store is found under its key, if the key was not in the store
and the store was not full; under any other key nothing changes. -/
theorem get?_put (c : Cache) (key : String) (d : Descriptor) (k : String) :
    (c.put key d).2.get? k =
      if c.get? key = none ∧ c.size < c.capacity ∧ k = key then some d else c.get? k := by
  by_cases hpresent : c.contains key = true
  · have hput : c.put key d = (.present, c) := dif_pos hpresent
    rw [hput, if_neg]
    rintro ⟨hnone, -⟩
    simp [contains, hnone] at hpresent
  · have hnone : c.get? key = none := by simpa [contains] using hpresent
    rw [put, dif_neg hpresent, hnone]
    by_cases hroom : (c.size : Int) < c.capacity
    · rw [dif_pos hroom, get?_add]
      by_cases hk : k = key
      · subst hk
        simp [hroom, hnone]
      · simp [hk]
    · simp [hroom]

theorem faithful_empty (capacity : Int) : (empty capacity).Faithful := by
  intro key d h
  simp [get?, empty] at h

theorem Faithful.clear {c : Cache} : c.clear.Faithful := by
  intro key d h
  simp at h

theorem Faithful.put {c : Cache} (hc : c.Faithful) {key : String} {d : Descriptor}
    (h : Descriptor.read key.toList = .ok d) : (c.put key d).2.Faithful := by
  intro k d' hk
  rw [get?_put] at hk
  split_ifs at hk with hput
  · obtain ⟨-, -, rfl⟩ := hput
    obtain rfl := Option.some.inj hk
    exact h
  · exact hc k d' hk

/-- Reading a query by way of a faithful store leaves a faithful store, also when it fails. -/
theorem Faithful.parse {t : Trace} (ht : t.cache.Faithful) (query : Value) :
    ((Query.parse query).runFrom t).2.cache.Faithful := by
  rw [runFrom_parse]
  split
  · exact ht
  · split
    · exact ht
    · split
      · exact ht
      · rename_i h
        exact ht.put h

theorem Faithful.use {c : Cache} (hc : c.Faithful) (u : Use) : (c.use u).Faithful := by
  cases u with
  | read query => exact Faithful.parse (t := ⟨c, []⟩) hc query
  | clear => exact Faithful.clear

theorem Faithful.foldl_use {c : Cache} (hc : c.Faithful) (uses : List Use) :
    (uses.foldl Cache.use c).Faithful := by
  induction uses generalizing c with
  | nil => exact hc
  | cons u uses ih => exact ih (hc.use u)

/-- A store that reading has filled is faithful. -/
theorem faithful_filled (capacity : Int) (uses : List Use) : (filled capacity uses).Faithful :=
  (faithful_empty capacity).foldl_use uses

end Cache

end Extraction.Query
