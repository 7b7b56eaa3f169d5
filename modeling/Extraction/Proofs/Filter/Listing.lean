import Extraction.Extractor
import Extraction.Proofs.Filter.Layers
import Extraction.Proofs.Filter.Lookup
import Mathlib.Data.List.Nodup

/-!
# The list of filters

The filters of a call are those of three layers: the built-in ones, those of the extractor over
them, and those of the call over both. The upper layers decide what stands under a name, and the
lower ones where the name is listed: a name keeps the place in which it has first appeared, so the
built-in filters come first, then the new names of the extractor, then those of the call. Whether a
name is listed does not depend on the value that stands under it, while the empty value is no
filter; a name with the empty value is listed and has no filter.

## Main definitions

* `Overlay.last?` : the last value that an overlay gives to a name.
* `Overlay.newNames` : the names that an overlay adds to those that are known.
* `Overlay.standing?` : what stands under a name once two layers lie over the built-in filters.

## Main results

* `Registry.names_merged` : the names of a registry are those of all layers, each once.
* `Registry.lookup_merged_append` : what stands under a name in a registry of two layers.
* `Extractor.registry_evaluator` : the registry of a call.
-/

namespace Extraction

namespace Filter.Builtin

/-- The names of the built-in filters, in the order in which they are listed. -/
def names : List String :=
  all.map name

end Filter.Builtin

namespace Overlay

/-- The last value that an overlay gives to a name. -/
def last? (o : Overlay) (name : String) : Option Value :=
  o.reverse.lookup name

/-- The names of an overlay that are not among the known ones, each once, in the order in which they
first appear. -/
def newNames (o : Overlay) (known : List String) : List String :=
  (o.names.removeAll known).eraseDups

/-- What stands under a name once a lower and an upper layer lie over the built-in filters: the last
value of the upper layer, or else that of the lower one, or else the built-in filter. -/
def standing? (lower upper : Overlay) (name : String) : Option Filter.Entry :=
  match upper.last? name, lower.last? name with
  | some v, _ => some (.given v)
  | none, some v => some (.given v)
  | none, none => (Filter.Builtin.ofName? name).map .builtin

theorem names_append (o extra : Overlay) : names (o ++ extra) = o.names ++ extra.names :=
  List.map_append

theorem mem_newNames {o : Overlay} {known : List String} {name : String} :
    name ∈ o.newNames known ↔ name ∈ o.names ∧ name ∉ known := by
  simp only [newNames, List.mem_eraseDups, List.removeAll, List.mem_filter, Bool.not_eq_true',
    List.elem_eq_mem, decide_eq_false_iff_not]

/-- What an overlay adds is what its first part adds, and then what the other part adds to that. -/
theorem newNames_append (o extra : Overlay) (known : List String) :
    newNames (o ++ extra) known = o.newNames known ++ extra.newNames (known ++ o.names) := by
  have hremove : (extra.names.removeAll known).removeAll (o.names.removeAll known) =
      extra.names.removeAll (known ++ o.names) := by
    simp only [List.removeAll, List.filter_filter]
    refine List.filter_congr fun name _ => ?_
    by_cases h : name ∈ known <;> simp [h]
  rw [newNames, names_append, List.removeAll, List.filter_append, List.eraseDups_append]
  exact congrArg (o.newNames known ++ List.eraseDups ·) hremove

theorem newNames_singleton (e : String × Value) (known : List String) :
    newNames [e] known = if e.1 ∈ known then [] else [e.1] := by
  by_cases h : e.1 ∈ known <;> simp [newNames, names, List.removeAll, h, List.eraseDups_cons]

end Overlay

namespace Registry

/-! ### Names -/

theorem names_merged_concat (o : Overlay) (e : String × Value) :
    (merged (o ++ [e])).names =
      if e.1 ∈ (merged o).names then (merged o).names else (merged o).names ++ [e.1] := by
  rw [merged_concat]
  exact map_fst_insert _ e.1 (.given e.2)

/-- The names of the built-in filters come first, and then what the overlay adds to them. -/
theorem names_merged (o : Overlay) :
    (merged o).names = Filter.Builtin.names ++ o.newNames Filter.Builtin.names := by
  induction o using List.reverseRecOn with
  | nil => rfl
  | append_singleton o e ih =>
    have hmem : e.1 ∈ (merged o).names ↔ e.1 ∈ Filter.Builtin.names ++ Overlay.names o := by
      rw [ih, List.mem_append, List.mem_append, Overlay.mem_newNames]
      tauto
    rw [names_merged_concat, Overlay.newNames_append, Overlay.newNames_singleton, ih]
    rw [ih] at hmem
    simp only [hmem]
    split_ifs
    · rw [List.append_nil]
    · rw [List.append_assoc]

/-! ### Two layers -/

/-- The upper of two layers decides what stands under a name, if it has the name. -/
theorem lookup_merged_append (lower upper : Overlay) (name : String) :
    (merged (lower ++ upper)).entries.lookup name = lower.standing? upper name := by
  rw [lookup_merged, List.reverse_append, List.lookup_append]
  show (((upper.last? name).or (lower.last? name)).map Filter.Entry.given).or _ = _
  unfold Overlay.standing?
  cases upper.last? name with
  | some v => rfl
  | none =>
    cases lower.last? name with
    | some v => rfl
    | none => rfl

theorem get?_eq_some_iff {r : Registry} {name : String} {entry : Filter.Entry} :
    r.get? name = some entry ↔ r.entries.lookup name = some entry ∧ entry ≠ .given .null := by
  unfold get?
  split
  case h_1 h =>
    rw [h]
    exact iff_of_false (by simp) fun ⟨heq, hne⟩ => hne (Option.some.inj heq).symm
  case h_2 hnull =>
    refine ⟨fun h => ⟨h, ?_⟩, And.left⟩
    rintro rfl
    exact hnull h

end Registry

/-- **Three layers of filters.** Take any extractor and the filters of any call of it; names may be
repeated in either list, be those of built-in filters, and stand with any values. In the registry of
the call there stands under every name what the call gives it last, or else what the extractor gives
it last, or else the built-in filter; this is the filter of the name unless it is the empty value.
The names are all different: those of the 23 built-in filters in their order, then the new names of
the extractor and then those of the call, both in the order in which they first appear. A name is in
the registry exactly if it is listed, which is if one of the layers has it, with whatever value. It
makes no difference whether the two upper layers are made into one before. -/
theorem Extractor.registry_evaluator (x : Extractor) (filters : Overlay) :
    let r := (x.evaluator filters).registry
    (∀ name, r.entries.lookup name = x.filters.standing? filters name) ∧
      (∀ name entry, r.get? name = some entry ↔
        x.filters.standing? filters name = some entry ∧ entry ≠ .given .null) ∧
      r.names.Nodup ∧ Filter.Builtin.names.length = 23 ∧
      r.names = Filter.Builtin.names ++ x.filters.newNames Filter.Builtin.names ++
        filters.newNames (Filter.Builtin.names ++ x.filters.names) ∧
      (∀ name, r.contains name = true ↔ name ∈ r.names) ∧
      (∀ name, name ∈ r.names ↔
        name ∈ Filter.Builtin.names ∨ name ∈ x.filters.names ∨ name ∈ filters.names) ∧
      r = .merged (x.filters.layered filters) := by
  intro r
  have hlookup (name : String) : r.entries.lookup name = x.filters.standing? filters name :=
    Registry.lookup_merged_append x.filters filters name
  have hnames : r.names = Filter.Builtin.names ++ x.filters.newNames Filter.Builtin.names ++
      filters.newNames (Filter.Builtin.names ++ x.filters.names) := by
    rw [List.append_assoc, ← Overlay.newNames_append]
    exact Registry.names_merged (x.filters ++ filters)
  refine ⟨hlookup, fun name entry => ?_, r.distinct, rfl, hnames,
    fun name => List.contains_iff_mem, fun name => ?_, (Registry.merged_layered _ _).symm⟩
  · rw [Registry.get?_eq_some_iff, hlookup]
  · rw [hnames, List.mem_append, List.mem_append, Overlay.mem_newNames, Overlay.mem_newNames,
      List.mem_append]
    tauto

end Extraction
