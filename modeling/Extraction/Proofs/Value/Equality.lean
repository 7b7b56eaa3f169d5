import Extraction.Proofs.Number.Comparison
import Mathlib.Tactic.Tauto

/-!
# Equality of values is an equivalence

Truth values, integers and double-precision numbers are equal if their exact values are, lists if
they are equal item by item, and sets and maps if they have as many members and every member of the
one equals one of the other. Not-a-number equals nothing. Without it, equality is reflexive,
symmetric and transitive. For sets and maps symmetry needs that no member is there twice, as in
every set and map: different members then have different partners, so that all of the other set
are used up.

## Main definitions

* `Value.Regular` : a value that holds no not-a-number, and no set or map with a member twice.

## Main results

* `Value.Regular.equal_self`, `Value.Regular.equal_comm`, `Value.Regular.equal_trans` : on such
  values equality is an equivalence.
* `Value.Regular.insert`, `Value.Regular.union` : maps that are built by putting entries in have no
  key twice.
-/

namespace Extraction

namespace Value

/-- At no depth the value holds not-a-number, and at no depth it holds a set with two equal items or
a map with two equal keys. -/
inductive Regular : Value → Prop
  | null : Regular .null
  | bool (b : Bool) : Regular (.bool b)
  | int (n : Int) : Regular (.int n)
  | float {x : Binary64} : x ≠ .nan → Regular (.float x)
  | text (s : String) : Regular (.text s)
  | bytes (bs : List UInt8) : Regular (.bytes bs)
  | moment (m : Moment) : Regular (.moment m)
  | list {items : List Value} : (∀ v ∈ items, Regular v) → Regular (.list items)
  | tuple {items : List Value} : (∀ v ∈ items, Regular v) → Regular (.tuple items)
  | set {items : List Value} : (∀ v ∈ items, Regular v) →
      (items.Pairwise fun a b => a.equal b = false) → Regular (.set items)
  | map {entries : List (Value × Value)} : (∀ e ∈ entries, Regular e.1) →
      (∀ e ∈ entries, Regular e.2) → (entries.Pairwise fun e f => e.1.equal f.1 = false) →
      Regular (.map entries)
  | function {name : String} {captured : List Value} : (∀ v ∈ captured, Regular v) →
      Regular (.function name captured)

/-! ### Numbers -/

theorem Number.equal_iff {m n : Number} (hm : m ≠ .float .nan) (hn : n ≠ .float .nan) :
    m.equal n = true ↔ m.value = n.value := by
  rw [Number.equal, Number.compare?_eq hm hn, beq_iff_eq, Option.some_inj, compare_eq_iff_eq]

theorem Regular.number_ne_nan {a : Value} {m : Number} (ha : a.Regular) (hm : a.number? = some m) :
    m ≠ .float .nan := by
  rintro rfl
  cases ha with
  | float hx =>
    obtain rfl := Number.float.inj (Option.some.inj hm)
    exact hx rfl
  | _ => cases hm

/-- A number equals the values that are numbers and equal it. -/
theorem equal_iff_of_number {a b : Value} {m : Number} (hm : a.number? = some m) :
    a.equal b = true ↔ ∃ n, b.number? = some n ∧ m.equal n = true := by
  cases a with
  | bool x | int x | float x =>
    obtain rfl := Option.some.inj hm
    rw [equal]
    cases b.number? <;> simp
  | _ => cases hm

/-! ### Values with parts -/

/-- The items of two lists are equal one by one. -/
def SameItems (as bs : List Value) : Prop :=
  List.Forall₂ (fun a b => a.equal b = true) as bs

theorem equalItems_iff {as bs : List Value} : equalItems as bs = true ↔ SameItems as bs := by
  induction as generalizing bs with
  | nil => cases bs <;> simp [equalItems, SameItems]
  | cons a as ih =>
    cases bs with
    | nil => simp [equalItems, SameItems]
    | cons b bs =>
      rw [equalItems, Bool.and_eq_true, ih, SameItems, SameItems, List.forall₂_cons]

theorem equal_list_iff {as : List Value} {b : Value} :
    (Value.list as).equal b = true ↔ ∃ bs, b = .list bs ∧ SameItems as bs := by
  cases b <;> simp [equal, equalItems_iff]

theorem equal_tuple_iff {as : List Value} {b : Value} :
    (Value.tuple as).equal b = true ↔ ∃ bs, b = .tuple bs ∧ SameItems as bs := by
  cases b <;> simp [equal, equalItems_iff]

theorem equal_function_iff {name : String} {as : List Value} {b : Value} :
    (Value.function name as).equal b = true ↔ ∃ bs, b = .function name bs ∧ SameItems as bs := by
  cases b with
  | function name' bs =>
    simp only [equal, Bool.and_eq_true, beq_iff_eq, equalItems_iff, function.injEq]
    constructor
    · rintro ⟨rfl, h⟩
      exact ⟨bs, ⟨rfl, rfl⟩, h⟩
    · rintro ⟨_, ⟨rfl, rfl⟩, h⟩
      exact ⟨rfl, h⟩
  | _ => simp [equal]

theorem itemsWithin_iff {as bs : List Value} :
    itemsWithin as bs = true ↔ ∀ a ∈ as, ∃ b ∈ bs, a.equal b = true := by
  induction as with
  | nil => simp [itemsWithin]
  | cons a as ih => simp [itemsWithin, ih]

theorem entriesWithin_iff {es fs : List (Value × Value)} :
    entriesWithin es fs = true ↔
      ∀ e ∈ es, ∃ f ∈ fs, e.1.equal f.1 = true ∧ e.2.equal f.2 = true := by
  induction es with
  | nil => simp [entriesWithin]
  | cons e es ih =>
    obtain ⟨k, v⟩ := e
    rw [entriesWithin, Bool.and_eq_true, ih, List.any_eq_true, List.forall_mem_cons]
    simp only [Bool.and_eq_true]

theorem equal_set_iff {as : List Value} {b : Value} :
    (Value.set as).equal b = true ↔ ∃ bs, b = .set bs ∧ as.length = bs.length ∧
      ∀ a ∈ as, ∃ b ∈ bs, a.equal b = true := by
  cases b <;> simp [equal, itemsWithin_iff]

theorem equal_map_iff {es : List (Value × Value)} {b : Value} :
    (Value.map es).equal b = true ↔ ∃ fs, b = .map fs ∧ es.length = fs.length ∧
      ∀ e ∈ es, ∃ f ∈ fs, e.1.equal f.1 = true ∧ e.2.equal f.2 = true := by
  cases b <;> simp [equal, entriesWithin_iff]

/-- If every one of several things has a partner among as many others, and no two have the same,
then every one of the others is a partner. -/
theorem exists_partner {α β : Type} {R : α → β → Prop} {as : List α} {bs : List β}
    (hlength : as.length = bs.length) (hpartner : ∀ a ∈ as, ∃ b ∈ bs, R a b)
    (hapart : as.Pairwise fun a a' => ∀ b ∈ bs, R a b → ¬R a' b) :
    ∀ b ∈ bs, ∃ a ∈ as, R a b := by
  induction as generalizing bs with
  | nil =>
    obtain rfl := List.eq_nil_of_length_eq_zero hlength.symm
    simp
  | cons a as ih =>
    obtain ⟨first, hrest⟩ := List.pairwise_cons.1 hapart
    obtain ⟨b, hb, hab⟩ := hpartner a List.mem_cons_self
    obtain ⟨front, back, rfl⟩ := List.append_of_mem hb
    have hsub : ∀ x ∈ front ++ back, x ∈ front ++ b :: back := by
      intro x hx
      simp only [List.mem_append, List.mem_cons] at hx ⊢
      tauto
    -- The partner of `a` is taken out: it is no partner of the things that are left.
    have hleft : ∀ b' ∈ front ++ back, ∃ a' ∈ as, R a' b' := by
      refine ih ?_ ?_ (hrest.imp fun h b' hb' => h b' (hsub b' hb'))
      · simp only [List.length_cons, List.length_append] at hlength ⊢
        omega
      · intro a' ha'
        obtain ⟨b', hb', hab'⟩ := hpartner a' (List.mem_cons_of_mem a ha')
        have hne : b' ≠ b := by
          rintro rfl
          exact first a' ha' b' hb hab hab'
        refine ⟨b', ?_, hab'⟩
        simp only [List.mem_append, List.mem_cons] at hb' ⊢
        tauto
    intro x hx
    by_cases hxb : x = b
    · exact ⟨a, List.mem_cons_self, hxb ▸ hab⟩
    · obtain ⟨a', ha', hR⟩ := hleft x (by
        simp only [List.mem_append, List.mem_cons] at hx ⊢
        tauto)
      exact ⟨a', List.mem_cons_of_mem a ha', hR⟩

/-! ### Symmetry and transitivity -/

/-- Equality with a value goes both ways, and on to what equals the other side. -/
def Steady (a : Value) : Prop :=
  ∀ b, b.Regular → a.equal b = true →
    b.equal a = true ∧ ∀ c, c.Regular → b.equal c = true → a.equal c = true

theorem steady_of_number {a : Value} {m : Number} (ha : a.Regular) (hm : a.number? = some m) :
    a.Steady := by
  intro b hb hab
  obtain ⟨n, hn, hmn⟩ := (equal_iff_of_number hm).1 hab
  have hm' := ha.number_ne_nan hm
  have hn' := hb.number_ne_nan hn
  rw [Number.equal_iff hm' hn'] at hmn
  refine ⟨(equal_iff_of_number hn).2 ⟨m, hm, (Number.equal_iff hn' hm').2 hmn.symm⟩, ?_⟩
  intro c hc hbc
  obtain ⟨k, hk, hnk⟩ := (equal_iff_of_number hn).1 hbc
  have hk' := hc.number_ne_nan hk
  rw [Number.equal_iff hn' hk'] at hnk
  exact (equal_iff_of_number hm).2 ⟨k, hk, (Number.equal_iff hm' hk').2 (hmn.trans hnk)⟩

/-- Lists are compared item by item, so that what holds for the items holds for them. -/
theorem SameItems.steady {as bs : List Value} (hab : SameItems as bs) (h : ∀ a ∈ as, a.Steady)
    (hbs : ∀ b ∈ bs, b.Regular) :
    SameItems bs as ∧ ∀ cs : List Value, (∀ c ∈ cs, c.Regular) → SameItems bs cs →
      SameItems as cs := by
  induction hab with
  | nil => exact ⟨.nil, fun _ _ hcs => hcs⟩
  | @cons a b as bs hab _ ih =>
    rw [List.forall_mem_cons] at h hbs
    obtain ⟨hba, hon⟩ := h.1 b hbs.1 hab
    obtain ⟨hbas, hons⟩ := ih h.2 hbs.2
    refine ⟨.cons hba hbas, fun cs hcs hbc => ?_⟩
    cases hbc with
    | cons hbc hbcs =>
      rw [List.forall_mem_cons] at hcs
      exact .cons (hon _ hcs.1 hbc) (hons _ hcs.2 hbcs)

/-- A value that only equals itself is steady. -/
theorem steady_of_equal_iff {a : Value} (h : ∀ b, a.equal b = true ↔ a = b) : a.Steady := by
  intro b _ hab
  obtain rfl := (h b).1 hab
  exact ⟨hab, fun _ _ hbc => hbc⟩

/-- A value that is compared item by item is steady if its items are. -/
theorem steady_of_items {make : List Value → Value}
    (hequal : ∀ {as b}, (make as).equal b = true ↔ ∃ bs, b = make bs ∧ SameItems as bs)
    (hmake : ∀ {bs}, (make bs).Regular → ∀ b ∈ bs, b.Regular) {as : List Value}
    (has : ∀ a ∈ as, a.Steady) : (make as).Steady := by
  intro b hb hab
  obtain ⟨bs, rfl, hbs⟩ := hequal.1 hab
  obtain ⟨hback, hon⟩ := hbs.steady has (hmake hb)
  refine ⟨hequal.2 ⟨as, rfl, hback⟩, fun c hc hbc => ?_⟩
  obtain ⟨cs, rfl, hcs⟩ := hequal.1 hbc
  exact hequal.2 ⟨cs, rfl, hon cs (hmake hc) hcs⟩

theorem steady_moment (m : Moment) : (Value.moment m).Steady := by
  have hmoment {m n : Moment} : m.equal n = true ↔
      m.zone.isSome = n.zone.isSome ∧ m.instant = n.instant := by
    rw [Moment.equal, Bool.and_eq_true, beq_iff_eq, beq_iff_eq]
  have hequal {m : Moment} {b : Value} : (Value.moment m).equal b = true ↔
      ∃ n, b = .moment n ∧ m.zone.isSome = n.zone.isSome ∧ m.instant = n.instant := by
    cases b <;> simp [equal, hmoment]
  intro b _ hab
  obtain ⟨n, rfl, hzone, hinstant⟩ := hequal.1 hab
  refine ⟨hequal.2 ⟨m, rfl, hzone.symm, hinstant.symm⟩, fun c _ hbc => ?_⟩
  obtain ⟨k, rfl, hzone', hinstant'⟩ := hequal.1 hbc
  exact hequal.2 ⟨k, rfl, hzone.trans hzone', hinstant.trans hinstant'⟩

/-- Two steady values that are not equal do not both equal a third. -/
theorem Steady.not_both {a a' b : Value} (ha : a.Steady) (ha' : a'.Steady) (hregular : a'.Regular)
    (hapart : a.equal a' = false) (hb : b.Regular) (hab : a.equal b = true) :
    ¬a'.equal b = true := by
  intro hab'
  rw [(ha b hb hab).2 a' hregular (ha' b hb hab').1] at hapart
  cases hapart

theorem steady_set {as : List Value} (hregular : ∀ a ∈ as, a.Regular)
    (hapart : as.Pairwise fun a a' => a.equal a' = false) (has : ∀ a ∈ as, a.Steady) :
    (Value.set as).Steady := by
  intro b hb hab
  obtain ⟨bs, rfl, hlength, hwithin⟩ := equal_set_iff.1 hab
  cases hb with
  | set hbs _ =>
    refine ⟨equal_set_iff.2 ⟨as, rfl, hlength.symm, fun b hb => ?_⟩, fun c hc hbc => ?_⟩
    · have hone : as.Pairwise fun a a' => ∀ b ∈ bs, a.equal b = true → ¬a'.equal b = true :=
        hapart.imp_of_mem fun {a a'} ha ha' h b hb =>
          (has a ha).not_both (has a' ha') (hregular a' ha') h (hbs b hb)
      obtain ⟨a, ha, hab⟩ := exists_partner hlength hwithin hone b hb
      exact ⟨a, ha, (has a ha b (hbs b hb) hab).1⟩
    · obtain ⟨cs, rfl, hlength', hwithin'⟩ := equal_set_iff.1 hbc
      cases hc with
      | set hcs _ =>
        refine equal_set_iff.2 ⟨cs, rfl, hlength.trans hlength', fun a ha => ?_⟩
        obtain ⟨b, hb, hab⟩ := hwithin a ha
        obtain ⟨c, hc, hbc⟩ := hwithin' b hb
        exact ⟨c, hc, (has a ha b (hbs b hb) hab).2 c (hcs c hc) hbc⟩

theorem steady_map {es : List (Value × Value)} (hregular : ∀ e ∈ es, e.1.Regular)
    (hapart : es.Pairwise fun e e' => e.1.equal e'.1 = false) (hkeys : ∀ e ∈ es, e.1.Steady)
    (hvalues : ∀ e ∈ es, e.2.Steady) : (Value.map es).Steady := by
  intro b hb hab
  obtain ⟨fs, rfl, hlength, hwithin⟩ := equal_map_iff.1 hab
  cases hb with
  | map hfs hfs' _ =>
    refine ⟨equal_map_iff.2 ⟨es, rfl, hlength.symm, fun f hf => ?_⟩, fun c hc hbc => ?_⟩
    · -- Entries with the same partner would have equal keys.
      have hone : es.Pairwise fun e e' => ∀ f ∈ fs,
          e.1.equal f.1 = true ∧ e.2.equal f.2 = true →
            ¬(e'.1.equal f.1 = true ∧ e'.2.equal f.2 = true) :=
        hapart.imp_of_mem fun {e e'} he he' h f hf hef hef' =>
          (hkeys e he).not_both (hkeys e' he') (hregular e' he') h (hfs f hf) hef.1 hef'.1
      obtain ⟨e, he, hkey, hvalue⟩ := exists_partner hlength hwithin hone f hf
      exact ⟨e, he, (hkeys e he f.1 (hfs f hf) hkey).1, (hvalues e he f.2 (hfs' f hf) hvalue).1⟩
    · obtain ⟨gs, rfl, hlength', hwithin'⟩ := equal_map_iff.1 hbc
      cases hc with
      | map hgs hgs' _ =>
        refine equal_map_iff.2 ⟨gs, rfl, hlength.trans hlength', fun e he => ?_⟩
        obtain ⟨f, hf, hkey, hvalue⟩ := hwithin e he
        obtain ⟨g, hg, hkey', hvalue'⟩ := hwithin' f hf
        exact ⟨g, hg, (hkeys e he f.1 (hfs f hf) hkey).2 g.1 (hgs g hg) hkey',
          (hvalues e he f.2 (hfs' f hf) hvalue).2 g.2 (hgs' g hg) hvalue'⟩

theorem Regular.steady {a : Value} (ha : a.Regular) : a.Steady := by
  induction ha with
  | null => exact steady_of_equal_iff fun b => by cases b <;> simp [equal]
  | bool b => exact steady_of_number (.bool b) rfl
  | int n => exact steady_of_number (.int n) rfl
  | float hx => exact steady_of_number (.float hx) rfl
  | text s => exact steady_of_equal_iff fun b => by cases b <;> simp [equal]
  | bytes bs => exact steady_of_equal_iff fun b => by cases b <;> simp [equal]
  | moment m => exact steady_moment m
  | list _ ih => exact steady_of_items equal_list_iff (fun h => by cases h; assumption) ih
  | tuple _ ih => exact steady_of_items equal_tuple_iff (fun h => by cases h; assumption) ih
  | set hitems hapart ih => exact steady_set hitems hapart ih
  | map hkeys _ hapart ihkeys ihvalues => exact steady_map hkeys hapart ihkeys ihvalues
  | function _ ih => exact steady_of_items equal_function_iff (fun h => by cases h; assumption) ih

/-! ### The three laws -/

section Laws

variable {a b c : Value}

theorem SameItems.self {as : List Value} (h : ∀ a ∈ as, a.equal a = true) : SameItems as as :=
  List.forall₂_same.2 h

/-- A value without not-a-number equals itself. -/
theorem Regular.equal_self (ha : a.Regular) : a.equal a = true := by
  have hnumber {a : Value} {m : Number} (ha : a.Regular) (hm : a.number? = some m) :
      a.equal a = true := by
    have hm' := ha.number_ne_nan hm
    exact (equal_iff_of_number hm).2 ⟨m, hm, (Number.equal_iff hm' hm').2 rfl⟩
  induction ha with
  | null | text s | bytes bs | moment m => simp [equal, Moment.equal]
  | bool b => exact hnumber (.bool b) rfl
  | int n => exact hnumber (.int n) rfl
  | float hx => exact hnumber (.float hx) rfl
  | list _ ih => exact equal_list_iff.2 ⟨_, rfl, .self ih⟩
  | tuple _ ih => exact equal_tuple_iff.2 ⟨_, rfl, .self ih⟩
  | set _ _ ih => exact equal_set_iff.2 ⟨_, rfl, rfl, fun a ha => ⟨a, ha, ih a ha⟩⟩
  | map _ _ _ ihkeys ihvalues =>
    exact equal_map_iff.2 ⟨_, rfl, rfl, fun e he => ⟨e, he, ihkeys e he, ihvalues e he⟩⟩
  | function _ ih => exact equal_function_iff.2 ⟨_, rfl, .self ih⟩

theorem Regular.equal_comm (ha : a.Regular) (hb : b.Regular) : a.equal b = b.equal a :=
  Bool.eq_iff_iff.2 ⟨fun h => (ha.steady b hb h).1, fun h => (hb.steady a ha h).1⟩

theorem Regular.equal_trans (ha : a.Regular) (hb : b.Regular) (hc : c.Regular)
    (hab : a.equal b = true) (hbc : b.equal c = true) : a.equal c = true :=
  (ha.steady b hb hab).2 c hc hbc

end Laws

/-! ### Maps that entries are put into -/

theorem mem_insert {es : Entries} {key v : Value} {e : Value × Value} (he : e ∈ es.insert key v) :
    e ∈ es ∨ e.2 = v ∧ (e.1 = key ∨ ∃ e' ∈ es, e.1 = e'.1) := by
  induction es with
  | nil =>
    obtain rfl := List.mem_singleton.1 he
    exact .inr ⟨rfl, .inl rfl⟩
  | cons e' es ih =>
    obtain ⟨k, w⟩ := e'
    rw [Entries.insert] at he
    split_ifs at he
    · rcases List.mem_cons.1 he with rfl | he
      · exact .inr ⟨rfl, .inr ⟨_, List.mem_cons_self, rfl⟩⟩
      · exact .inl (List.mem_cons_of_mem _ he)
    · rcases List.mem_cons.1 he with rfl | he
      · exact .inl List.mem_cons_self
      · rcases ih he with he | ⟨hv, hkey | ⟨e', he', hkey⟩⟩
        · exact .inl (List.mem_cons_of_mem _ he)
        · exact .inr ⟨hv, .inl hkey⟩
        · exact .inr ⟨hv, .inr ⟨e', List.mem_cons_of_mem _ he', hkey⟩⟩

/-- A map that an entry is put into still has no key twice. -/
theorem Regular.insert {es : Entries} (hes : (Value.map es).Regular) {key v : Value}
    (hkey : key.Regular) (hv : v.Regular) : (Value.map (es.insert key v)).Regular := by
  cases hes with
  | map hkeys hvalues hapart =>
    refine .map (fun e he => ?_) (fun e he => ?_) ?_
    · rcases mem_insert he with he | ⟨-, hk | ⟨e', he', hk⟩⟩
      · exact hkeys e he
      · exact hk ▸ hkey
      · exact hk ▸ hkeys e' he'
    · rcases mem_insert he with he | ⟨hw, -⟩
      · exact hvalues e he
      · exact hw ▸ hv
    · induction es with
      | nil => exact List.pairwise_singleton _ _
      | cons e es ih =>
        obtain ⟨k, w⟩ := e
        rw [List.forall_mem_cons] at hkeys hvalues
        obtain ⟨hfirst, hrest⟩ := List.pairwise_cons.1 hapart
        rw [Entries.insert]
        split_ifs with hk
        · exact List.pairwise_cons.2 ⟨hfirst, hrest⟩
        · refine List.pairwise_cons.2 ⟨fun e he => ?_, ih hkeys.2 hvalues.2 hrest⟩
          rcases mem_insert he with he | ⟨-, he | ⟨e', he', he⟩⟩
          · exact hfirst e he
          · rw [he]
            simpa using hk
          · rw [he]
            exact hfirst e' he'

theorem Regular.union {es extra : Entries} (hes : (Value.map es).Regular)
    (hextra : ∀ e ∈ extra, e.1.Regular ∧ e.2.Regular) : (Value.map (es.union extra)).Regular := by
  rw [Entries.union]
  induction extra generalizing es with
  | nil => exact hes
  | cons e extra ih =>
    rw [List.forall_mem_cons] at hextra
    exact ih (hes.insert hextra.1.1 hextra.1.2) hextra.2

end Value

end Extraction
