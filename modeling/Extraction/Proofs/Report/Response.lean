import Extraction.Failure
import Extraction.Proofs.Value.Decidable
import Extraction.Proofs.Value.Unwritten
import Mathlib.Data.List.Forall2

/-!
# Responses of reports

A report shows the data that go with a failure, and those may be any values. Scalars are shown as
they are, and lists and tuples as lists of what is shown of their items; all else is quoted, so that
what is shown is made of scalars and lists alone at every depth. Showing such a value changes
nothing any more. The only obstacle is an integer of too many digits in something that is to be
quoted: where no such integer is cited with the data there is a response.

The data of a report are a map, to which each kind of report contributes its own entries first. The
keys keep their order, and an extra entry under one of those keys takes its place.

## Main definitions

* `Value.isScalar` : the empty value, truth values, numbers and texts.
* `Value.Printable` : scalars, and lists of printable values.
* `Value.ShownAs` : what is shown of a value.
* `Entries.keys` : the keys of a map.

## Main results

* `Value.printable_eq_self_iff` : the printable values are those that showing leaves as they are.
* `Value.printFault?_eq_none` : what does not cite an integer of too many digits can be shown.
* `Entries.keys_union` : the keys of two maps that are put together.
* `Report.respond_eq_ok` : the response of a report.
-/

namespace Extraction

namespace Value

/-- Whether a value is empty, a truth value, a number or a text. -/
def isScalar : Value → Bool
  | .null | .bool _ | .int _ | .float _ | .text _ => true
  | _ => false

/-- At every depth a value is made of scalars and lists alone. -/
inductive Printable : Value → Prop
  | scalar {v : Value} : v.isScalar = true → Printable v
  | list {vs : List Value} : (∀ v ∈ vs, Printable v) → Printable (.list vs)

/-- What is shown of a value: a scalar itself, a list or a tuple as the list of what is shown of its
items, and of anything else its quotation. -/
inductive ShownAs : Value → Value → Prop
  | scalar {v : Value} : v.isScalar = true → ShownAs v v
  | list {vs ws : List Value} : List.Forall₂ ShownAs vs ws → ShownAs (.list vs) (.list ws)
  | tuple {vs ws : List Value} : List.Forall₂ ShownAs vs ws → ShownAs (.tuple vs) (.list ws)
  | quoted {v : Value} : v.isScalar = false → v.isSequence = false → ShownAs v (.text v.quoted)

theorem printableItems_eq_map (vs : List Value) : printableItems vs = vs.map printable := by
  induction vs with
  | nil => rfl
  | cons v vs ih => rw [printableItems, ih, List.map_cons]

mutual

theorem shownAs_printable (v : Value) : v.ShownAs v.printable := by
  cases v with
  | null | bool _ | int _ | float _ | text _ => exact .scalar rfl
  | list vs => exact .list (forall₂_shownAs_printableItems vs)
  | tuple vs => exact .tuple (forall₂_shownAs_printableItems vs)
  | _ => exact .quoted rfl rfl

theorem forall₂_shownAs_printableItems (vs : List Value) :
    List.Forall₂ ShownAs vs (printableItems vs) := by
  cases vs with
  | nil => exact .nil
  | cons v vs => exact .cons (shownAs_printable v) (forall₂_shownAs_printableItems vs)

end

mutual

theorem Printable.of_printable (v : Value) : v.printable.Printable := by
  cases v with
  | list vs => exact .list (forall_printable_printableItems vs)
  | tuple vs => exact .list (forall_printable_printableItems vs)
  | _ => exact .scalar rfl

theorem forall_printable_printableItems (vs : List Value) :
    ∀ w ∈ printableItems vs, w.Printable := by
  cases vs with
  | nil => exact List.forall_mem_nil _
  | cons v vs =>
    exact List.forall_mem_cons.2
      ⟨.of_printable v, forall_printable_printableItems vs⟩

end

/-- The printable values are those that showing leaves as they are. -/
theorem printable_eq_self_iff {v : Value} : v.printable = v ↔ v.Printable := by
  refine ⟨fun h => h ▸ .of_printable v, fun h => ?_⟩
  induction h with
  | @scalar v hv => cases v <;> first | rfl | cases hv
  | @list vs _ ih =>
    rw [printable, printableItems_eq_map, List.map_congr_left ih, List.map_id']

mutual

/-- A value that can be cited can be shown. -/
theorem printFault?_eq_none {v : Value} (h : v.quoteFault? = none) : v.printFault? = none := by
  cases v with
  | null | bool _ | int _ | float _ | text _ => rfl
  | list vs => exact itemsPrintFault?_eq_none h
  | tuple vs => exact itemsPrintFault?_eq_none h
  | _ => exact h

theorem itemsPrintFault?_eq_none {vs : List Value} (h : itemsQuoteFault? vs = none) :
    itemsPrintFault? vs = none := by
  cases vs with
  | nil => rfl
  | cons v vs =>
    rw [itemsQuoteFault?, Option.orElse_eq_or, Option.or_eq_none_iff] at h
    rw [itemsPrintFault?, printFault?_eq_none h.1, itemsPrintFault?_eq_none h.2]
    rfl

end

theorem itemsQuoteFault?_eq_none_iff {vs : List Value} :
    itemsQuoteFault? vs = none ↔ ∀ v ∈ vs, ¬v.CitesLong := by
  simp [Option.eq_none_iff_forall_ne_some, itemsQuoteFault?_eq_some_iff]

end Value

/-! ### The keys of the data -/

namespace Entries

/-- The keys of a map, in order. -/
def keys (es : Entries) : List Value :=
  es.map Prod.fst

theorem keys_cons (e : Value × Value) (es : Entries) : keys (e :: es) = e.1 :: keys es :=
  rfl

/-- A new key goes to the end, and with any other one the keys stay as they are. -/
theorem keys_insert (es : Entries) (key v : Value) :
    (es.insert key v).keys =
      if es.keys.any (fun k => k.equal key) then es.keys else es.keys ++ [key] := by
  induction es with
  | nil => rfl
  | cons e es ih =>
    rw [insert, keys_cons, List.any_cons]
    cases he : e.1.equal key with
    | true => simp [keys_cons]
    | false => cases h : (keys es).any fun k => k.equal key <;> simp [keys_cons, ih, h]

/-- The keys of two maps that are put together are those of the first and then the new ones of the
second, all in their order. -/
theorem keys_union {extra : Entries}
    (hapart : extra.Pairwise fun e e' => e.1.equal e'.1 = false) (es : Entries) :
    (es.union extra).keys =
      es.keys ++ extra.keys.filter fun key => !es.keys.any fun k => k.equal key := by
  induction extra generalizing es with
  | nil => exact (List.append_nil es.keys).symm
  | cons e extra ih =>
    obtain ⟨hhead, htail⟩ := List.pairwise_cons.1 hapart
    have hunion : es.union (e :: extra) = (es.insert e.1 e.2).union extra := rfl
    rw [hunion, ih htail, keys_insert, keys_cons, List.filter_cons]
    cases hknown : es.keys.any fun k => k.equal e.1 with
    | true => simp
    | false =>
      have hnew : ∀ key ∈ keys extra, (!(es.keys ++ [e.1]).any fun k => k.equal key) =
          !es.keys.any fun k => k.equal key := by
        intro key hkey
        obtain ⟨e', he', rfl⟩ := List.mem_map.1 hkey
        rw [List.any_append, List.any_cons, hhead e' he', List.any_nil, Bool.or_false,
          Bool.or_false]
      rw [if_neg Bool.false_ne_true, List.filter_congr hnew, Bool.not_false, if_pos rfl,
        List.append_assoc, List.singleton_append]

end Entries

/-! ### Responses -/

namespace Report

/-- **Responses hold printable data.** Take any report, of any kind, with any wording and any data,
in which no integer of too many digits is cited. There is a response. It has the kind and the
wording of the report, and shows its data under the same keys in the same order: those that every
report of the kind has, and then the new ones of the extra data, if their keys are all different.
Under each key is what is shown of the value there: lists and tuples keep their items one by one,
and scalars are kept as they are. At every depth it is made of scalars and lists alone, and showing
it once more changes nothing. -/
theorem respond_eq_ok (r : Report) (h : ∀ e ∈ r.details, ¬e.2.CitesLong) :
    ∃ shown : Entries,
      r.respond = .ok (.map [(.text "error", .text r.kind), (.text "message", .text r.message),
        (.text "details", .map shown)]) ∧
      shown.keys = r.details.keys ∧
      List.Forall₂ (fun d s => d.2.ShownAs s.2) r.details shown ∧
      (∀ s ∈ shown, s.2.Printable) ∧
      (shown.map fun s => (s.1, s.2.printable)) = shown ∧
      ((r.extra.Pairwise fun e e' => e.1.equal e'.1 = false) →
        let own := r.subject.map fun e => Value.text e.1
        shown.keys = own ++ r.extra.keys.filter fun key => !own.any fun k => k.equal key) := by
  have hprintable : ∀ s ∈ r.printableDetails, s.2.Printable := by
    intro s hs
    obtain ⟨d, -, rfl⟩ := List.mem_map.1 hs
    exact .of_printable d.2
  have hkeys : r.printableDetails.keys = r.details.keys := by
    rw [Entries.keys, printableDetails, List.map_map]
    rfl
  refine ⟨r.printableDetails, ?_, hkeys, ?_, hprintable, ?_, fun hapart => ?_⟩
  · have hfault : Value.itemsPrintFault? (r.details.map Prod.snd) = none := by
      refine Value.itemsPrintFault?_eq_none (Value.itemsQuoteFault?_eq_none_iff.2 ?_)
      exact List.forall_mem_map.2 h
    rw [respond, hfault]
    rfl
  · rw [printableDetails, List.forall₂_map_right_iff]
    exact List.forall₂_same.2 fun d _ => Value.shownAs_printable d.2
  · have hself : ∀ s ∈ r.printableDetails, (s.1, s.2.printable) = s := fun s hs => by
      rw [Value.printable_eq_self_iff.2 (hprintable s hs)]
    rw [List.map_congr_left hself, List.map_id']
  · rw [hkeys, details, Entries.keys_union hapart]
    simp [Entries.keys, Function.comp_def]

/-- A filter has failed on a tuple with values of many kinds. One entry of the extra data stands
under the key of the query and takes its place. -/
theorem respond_eq_ok_filter :
    let data : Value := .tuple [.list [.null, .tuple []], .set [.int 1],
      .map [(.text "k", .bytes [0])], .function "f" []]
    let r := Report.filter "failed" (.text "f") data (.text "a | f")
      [(.text "query", .list [.bool true]), (.text "hint", .text "none")]
    (∀ e ∈ r.details, ¬e.2.CitesLong) ∧
      ∃ shown : Entries,
        r.respond = .ok (.map [(.text "error", .text "FilterError"),
          (.text "message", .text "failed"), (.text "details", .map shown)]) ∧
        shown.keys = [.text "filter_name", .text "value", .text "query", .text "hint"] ∧
        ∀ s ∈ shown, s.2.Printable := by
  intro data r
  have hlong : ∀ e ∈ r.details, ¬e.2.CitesLong := by
    have hfault : Value.itemsQuoteFault? (r.details.map Prod.snd) = none := by decide +kernel
    exact fun e he => Value.itemsQuoteFault?_eq_none_iff.1 hfault e.2 (List.mem_map_of_mem he)
  have hapart : r.extra.Pairwise fun e e' => e.1.equal e'.1 = false := by decide +kernel
  obtain ⟨shown, hrespond, -, -, hprintable, -, hkeys⟩ := respond_eq_ok r hlong
  exact ⟨hlong, shown, hrespond, (hkeys hapart).trans (by decide +kernel), hprintable⟩

end Report

end Extraction
