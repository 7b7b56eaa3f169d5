import Extraction.Query.Descriptor

/-!
# A bounded store of descriptors

Descriptors are kept under the trimmed text of their query. The store has a capacity and gives
nothing up: once it is full, new queries are read but not kept. A key that is present keeps its
first descriptor. That the capacity is kept to and that the keys are different belongs to the store,
so no operation can give it up.

## Main definitions

* `Query.Cache` : the store.
* `Query.Cache.empty`, `Query.Cache.get?`, `Query.Cache.put`, `Query.Cache.clear` : its operations.
* `Query.Cache.Put` : what comes of putting a descriptor in.
-/

namespace Extraction.Query

/-- A bounded store of descriptors. -/
structure Cache where
  /-- How many entries there may be; none if it is not positive. -/
  capacity : Int
  /-- The entries, in the order in which they were put in. -/
  entries : List (String × Descriptor)
  /-- There are no more entries than the capacity allows. -/
  bounded : (entries.length : Int) ≤ max capacity 0
  /-- The keys of the entries are different. -/
  distinct : (entries.map Prod.fst).Nodup
  deriving DecidableEq, Repr

namespace Cache

/-- A store without entries. -/
def empty (capacity : Int) : Cache where
  capacity
  entries := []
  bounded := Int.le_max_right capacity 0
  distinct := List.nodup_nil

/-- The store that is used if none is given. -/
instance : EmptyCollection Cache where
  emptyCollection := empty 1000

/-- The number of entries. -/
def size (c : Cache) : Nat :=
  c.entries.length

/-- The descriptor under a key. -/
def get? (c : Cache) (key : String) : Option Descriptor :=
  c.entries.lookup key

/-- Whether there is a descriptor under a key. -/
def contains (c : Cache) (key : String) : Bool :=
  (c.get? key).isSome

theorem not_contains_iff {c : Cache} {key : String} :
    ¬c.contains key = true ↔ key ∉ c.entries.map Prod.fst := by
  rw [contains, Option.not_isSome_iff_eq_none, get?, List.lookup_eq_none_iff, List.mem_map]
  constructor
  · rintro h ⟨e, he, rfl⟩
    simpa using h e he
  · intro h e he
    simpa using fun heq : key = e.1 => h ⟨e, he, heq.symm⟩

/-- The store with one more descriptor, for a key that is not present and for which there is
room. -/
def add (c : Cache) (key : String) (d : Descriptor) (absent : ¬c.contains key)
    (room : c.size < c.capacity) : Cache where
  capacity := c.capacity
  entries := c.entries ++ [(key, d)]
  bounded := by
    rw [size] at room
    simp only [List.length_append, List.length_singleton]
    omega
  distinct := by
    have habsent := not_contains_iff.1 absent
    rw [List.map_append]
    exact List.nodup_append.2 ⟨c.distinct, by simp, by grind⟩

/-- What comes of putting a descriptor in. -/
inductive Put where
  /-- The key was present, and keeps its descriptor. -/
  | present
  /-- There was no room, and the descriptor is not kept. -/
  | full
  /-- The descriptor is kept. -/
  | stored
  deriving DecidableEq, Repr

/-- Whether there is a descriptor under the key, as those who put one in are told. -/
def Put.succeeds : Put → Bool
  | present | stored => true
  | full => false

/-- A descriptor is put under a key, unless the key is present or the store is full. -/
def put (c : Cache) (key : String) (d : Descriptor) : Put × Cache :=
  if present : c.contains key then (.present, c)
  else if room : c.size < c.capacity then (.stored, c.add key d present room)
  else (.full, c)

/-- The store without its entries. -/
def clear (c : Cache) : Cache :=
  empty c.capacity

end Cache

end Extraction.Query
