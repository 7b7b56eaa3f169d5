import Extraction.Filter.Registry
import Mathlib.Data.List.Induction
import Mathlib.Tactic.SplitIfs

/-!
# Looking up filters

A registry is made by putting the entries of a caller over the built-in filters, one after another.
What stands under a name in the end is what the last entry of the name has put there, or the
built-in filter of the name if there is no such entry. A name whose last entry is the empty value is
listed and has no filter.

## Main definitions

* `Overlay.provides` : whether a name has a filter once an overlay lies over the built-in filters.

## Main results

* `Registry.lookup_merged` : what stands under a name.
* `Registry.isSome_get?_merged` : the names that have a filter.
-/

namespace Extraction

/-- Whether a name has a filter once the entries of an overlay lie over the built-in filters: the
last entry of the name is not the empty value, or there is no entry of the name and it is that of a
built-in filter. -/
def Overlay.provides (o : Overlay) (name : String) : Bool :=
  match o.reverse.lookup name with
  | some .null => false
  | some _ => true
  | none => (Filter.Builtin.ofName? name).isSome

namespace Registry

/-- The first entry of a list is found under its name, and under any other name what is found in
the rest. -/
private theorem lookup_cons_ite {α : Type} (es : List (String × α)) (other : String) (a : α)
    (name : String) :
    ((other, a) :: es).lookup name = if name = other then some a else es.lookup name := by
  rw [List.lookup_cons]
  split
  · rename_i h
    rw [if_pos (eq_of_beq h)]
  · rename_i h
    rw [if_neg (ne_of_beq_false h)]

theorem lookup_insert (es : List (String × Filter.Entry)) (name : String) (entry : Filter.Entry)
    (n : String) :
    (insert es name entry).lookup n = if n = name then some entry else es.lookup n := by
  induction es with
  | nil => rw [insert, lookup_cons_ite]
  | cons e es ih =>
    obtain ⟨other, old⟩ := e
    rw [insert]
    by_cases hother : other = name
    · subst hother
      rw [if_pos rfl, lookup_cons_ite, lookup_cons_ite]
      split_ifs <;> rfl
    · rw [if_neg hother, lookup_cons_ite, lookup_cons_ite, ih]
      by_cases h : n = other
      · rw [if_pos h, if_pos h, if_neg (h ▸ hother)]
      · rw [if_neg h, if_neg h]

/-- Under the name of a built-in filter there is that filter. -/
theorem lookup_builtin (name : String) :
    builtin.entries.lookup name = (Filter.Builtin.ofName? name).map .builtin := by
  show (Filter.Builtin.all.map fun b => (b.name, Filter.Entry.builtin b)).lookup name = _
  unfold Filter.Builtin.ofName?
  induction Filter.Builtin.all with
  | nil => rfl
  | cons b bs ih =>
    rw [List.map_cons, List.lookup_cons, List.find?_cons, BEq.comm, ih]
    cases b.name == name <;> rfl

/-- The last entry of an overlay is put in last. -/
theorem merged_concat (o : Overlay) (e : String × Value) :
    merged (o ++ [e]) = (merged o).put e.1 (.given e.2) := by
  rw [merged, List.foldl_append]
  rfl

/-- The last entry of a name decides what stands under it. -/
theorem lookup_merged (o : Overlay) (name : String) :
    (merged o).entries.lookup name =
      ((o.reverse.lookup name).map .given).or ((Filter.Builtin.ofName? name).map .builtin) := by
  induction o using List.reverseRecOn with
  | nil => exact lookup_builtin name
  | append_singleton o e ih =>
    rw [merged_concat, put, lookup_insert, List.reverse_concat, lookup_cons_ite, ih]
    split_ifs <;> rfl

/-- A name has a filter if the overlay and the built-in filters provide one. -/
theorem isSome_get?_merged (o : Overlay) (name : String) :
    ((merged o).get? name).isSome = o.provides name := by
  unfold get? Overlay.provides
  rw [lookup_merged]
  cases o.reverse.lookup name with
  | none => cases Filter.Builtin.ofName? name <;> rfl
  | some v => cases v <;> rfl

end Registry

end Extraction
