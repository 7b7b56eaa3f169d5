import Extraction.Filter.Registry
import Mathlib.Tactic.Tauto

/-!
# Layers of filters

The entries that a caller puts over the built-in filters may come in two layers, the upper one
lying over the lower one. Whether the layers are first made into one or are put over the built-in
filters one after the other is the same, with the order of the names.

## Main definitions

* `Overlay.insert` : entries with one more.
* `Overlay.layered` : two layers as one.

## Main results

* `Registry.merged_layered` : two layers put over the built-in filters.
-/

namespace Extraction

namespace Overlay

/-- Entries with one more: a name that is present keeps its place. -/
def insert : Overlay → String → Value → Overlay
  | [], name, v => [(name, v)]
  | (other, old) :: rest, name, v =>
    if other = name then (name, v) :: rest else (other, old) :: insert rest name v

/-- Entries put in one after another. -/
def union (o extra : Overlay) : Overlay :=
  extra.foldl (fun acc e => acc.insert e.1 e.2) o

/-- Two layers as one: the entries of the lower layer, with those of the upper one put over
them. -/
def layered (lower upper : Overlay) : Overlay :=
  (union [] lower).union upper

/-- The names of the entries, in order. -/
def names (o : Overlay) : List String :=
  o.map Prod.fst

theorem mem_names_insert {o : Overlay} {name n : String} {v : Value} :
    n ∈ (o.insert name v).names ↔ n ∈ o.names ∨ n = name := by
  induction o with
  | nil => simp [insert, names]
  | cons e o ih =>
    obtain ⟨other, old⟩ := e
    by_cases h : other = name
    · subst h
      simp only [insert, if_pos, names, List.map_cons, List.mem_cons]
      tauto
    · simp only [insert, if_neg h, names, List.map_cons, List.mem_cons]
      rw [names, names] at ih
      rw [ih]
      tauto

theorem nodup_names_insert {o : Overlay} (ho : o.names.Nodup) (name : String) (v : Value) :
    (o.insert name v).names.Nodup := by
  induction o with
  | nil => simp [insert, names]
  | cons e o ih =>
    obtain ⟨other, old⟩ := e
    have hcons := List.nodup_cons.1 ho
    by_cases h : other = name
    · subst h
      simpa [insert, names] using ho
    · simp only [insert, if_neg h]
      refine List.nodup_cons.2 ⟨fun hmem => ?_, ih hcons.2⟩
      rcases mem_names_insert.1 hmem with hmem | hmem
      · exact hcons.1 hmem
      · exact h hmem

end Overlay

namespace Registry

/-- Entries put over the filters of a registry, one after another. -/
private def overlaid (es : List (String × Filter.Entry)) (o : Overlay) :
    List (String × Filter.Entry) :=
  o.foldl (fun es e => insert es e.1 (.given e.2)) es

private theorem entries_merged (o : Overlay) :
    (merged o).entries = overlaid builtin.entries o := by
  rw [merged, overlaid]
  generalize builtin = r
  induction o generalizing r with
  | nil => rfl
  | cons e o ih => exact ih (r.put e.1 (.given e.2))

private theorem mem_map_fst_insert {es : List (String × Filter.Entry)} {n m : String}
    {x : Filter.Entry} (h : n ∈ es.map Prod.fst ∨ n = m) : n ∈ (insert es m x).map Prod.fst := by
  induction es with
  | nil => simpa [insert] using h
  | cons e es ih =>
    obtain ⟨other, old⟩ := e
    by_cases hm : other = m
    · subst hm
      simp only [insert, if_pos, List.map_cons, List.mem_cons] at h ⊢
      tauto
    · simp only [insert, if_neg hm, List.map_cons, List.mem_cons] at h ⊢
      tauto

private theorem insert_insert_self (es : List (String × Filter.Entry)) (n : String)
    (x y : Filter.Entry) : insert (insert es n x) n y = insert es n y := by
  induction es with
  | nil => simp [insert]
  | cons e es ih =>
    obtain ⟨other, old⟩ := e
    by_cases h : other = n
    · simp [insert, h]
    · simp [insert, h, ih]

/-- An entry for a name that is present is put in before or after one of another name. -/
private theorem insert_comm {es : List (String × Filter.Entry)} {n m : String}
    (hn : n ∈ es.map Prod.fst) (hne : m ≠ n) (x y : Filter.Entry) :
    insert (insert es m y) n x = insert (insert es n x) m y := by
  induction es with
  | nil => simp at hn
  | cons e es ih =>
    obtain ⟨other, old⟩ := e
    by_cases h : other = n
    · subst h
      simp [insert, hne.symm]
    · have hmem : n ∈ es.map Prod.fst := by
        simp only [List.map_cons, List.mem_cons] at hn
        exact hn.resolve_left (Ne.symm h)
      by_cases hm : other = m
      · subst hm
        simp [insert, h]
      · simp [insert, h, hm, ih hmem]

private theorem overlaid_insert_of_notMem {o : Overlay} {es : List (String × Filter.Entry)}
    {n : String} (ho : n ∉ o.names) (hn : n ∈ es.map Prod.fst) (x : Filter.Entry) :
    insert (overlaid es o) n x = overlaid (insert es n x) o := by
  induction o generalizing es with
  | nil => rfl
  | cons e o ih =>
    obtain ⟨m, v⟩ := e
    simp only [Overlay.names, List.map_cons, List.mem_cons, not_or] at ho
    show insert (overlaid (insert es m (.given v)) o) n x =
      overlaid (insert (insert es n x) m (.given v)) o
    rw [ih ho.2 (mem_map_fst_insert (.inl hn)), insert_comm hn (Ne.symm ho.1)]

private theorem overlaid_insert {o : Overlay} (ho : o.names.Nodup)
    (es : List (String × Filter.Entry)) (n : String) (v : Value) :
    overlaid es (o.insert n v) = insert (overlaid es o) n (.given v) := by
  induction o generalizing es with
  | nil => rfl
  | cons e o ih =>
    obtain ⟨m, u⟩ := e
    have hcons := List.nodup_cons.1 ho
    by_cases h : m = n
    · subst h
      show overlaid es (if m = m then (m, v) :: o else _) = _
      rw [if_pos rfl]
      show overlaid (insert es m (.given v)) o = insert (overlaid (insert es m (.given u)) o) m _
      rw [overlaid_insert_of_notMem hcons.1 (mem_map_fst_insert (.inr rfl)), insert_insert_self]
    · rw [Overlay.insert, if_neg h]
      exact ih hcons.2 _

private theorem overlaid_union {o : Overlay} (ho : o.names.Nodup) (extra : Overlay)
    (es : List (String × Filter.Entry)) :
    overlaid es (o.union extra) = overlaid (overlaid es o) extra ∧ (o.union extra).names.Nodup := by
  induction extra generalizing o with
  | nil => exact ⟨rfl, ho⟩
  | cons e extra ih =>
    obtain ⟨hunion, hnodup⟩ := ih (Overlay.nodup_names_insert ho e.1 e.2)
    refine ⟨hunion.trans ?_, hnodup⟩
    rw [overlaid_insert ho]
    rfl

/-- Two layers that are made into one give the same registry as the upper layer put in after the
lower one. -/
theorem merged_layered (lower upper : Overlay) :
    merged (lower.layered upper) = merged (lower ++ upper) := by
  have hnil : (Overlay.names []).Nodup := List.nodup_nil
  obtain ⟨hlower, hnodup⟩ := overlaid_union hnil lower builtin.entries
  have hupper := (overlaid_union hnodup upper builtin.entries).1
  refine Registry.ext ?_
  rw [entries_merged, entries_merged, Overlay.layered, hupper, hlower]
  simp [overlaid, List.foldl_append]

end Registry

end Extraction
