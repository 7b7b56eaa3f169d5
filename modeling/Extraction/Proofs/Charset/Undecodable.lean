import Extraction.Charset.Page
import Extraction.Proofs.Evaluation.Result
import Mathlib.Data.List.TakeWhile
import Mathlib.Tactic.SplitIfs

/-!
# Pages that cannot be read in the encoding that they declare

A page is read in the encoding that it declares, and what is unreadable in it is replaced. A name
that no encoding has counts for nothing, so the usual encoding takes its place. But a name that an
encoding has may be of no use all the same: the encoding is none of texts, or has no replacements.
One more encoding refuses bytes beyond ASCII after the last hyphen, where numbers are expected. And
no name can be looked up that has a character of code zero in it.

## Main definitions

* `Charset.Declares` : a page declares an encoding by one of its names.
* `Charset.Numeral` : a byte is the first one beyond ASCII where numbers are expected.
* `Charset.Undecodable` : why a page cannot be read in the encoding that it declares.

## Main results

* `Charset.readDeclared_error_iff` : a page fails to be read for these reasons and no other.
* `Charset.outcome_readDeclared` : which pages are read, and what an unknown name leads to.
-/

namespace Extraction.Charset

/-- A page declares an encoding, whose first name is given, by a name that can be looked up and is
not that of the usual encoding. -/
structure Declares (bs : List UInt8) (name codec : String) : Prop where
  label_eq : label? bs = some name
  legible : Char.ofNat 0 ∉ name.toList
  unusual : name ≠ usual
  codec_eq : ofLabel? name.toList = some codec

/-- A byte of a page is the first one beyond ASCII of those after the last hyphen, and so many of
those stand before it. Without a hyphen all bytes of the page count. -/
def Numeral (bs : List UInt8) (byte : UInt8) (position : Nat) : Prop :=
  ∃ lead before after, bs = lead ++ before ++ byte :: after ∧ before.length = position ∧
    (lead = [] ∨ lead.getLast? = some 45) ∧ 45 ∉ before ++ byte :: after ∧
    (∀ b ∈ before, b < 128) ∧ 128 ≤ byte

/-- Why a page cannot be read in the encoding that it declares. -/
inductive Undecodable (bs : List UInt8) : Fault → Prop
  /-- The name has a character of code zero in it. -/
  | name {name : String} : label? bs = some name → Char.ofNat 0 ∈ name.toList →
      Undecodable bs .nullInName
  /-- The encoding has no replacement for what is unreadable. -/
  | refused {name codec reason : String} : Declares bs name codec →
      (codec, reason) ∈ refusals → Undecodable bs (.unusableEncoding name reason)
  /-- The encoding is none of texts. -/
  | notText {name codec : String} : Declares bs name codec → codec ∈ Encoding.otherCodecs →
      Undecodable bs (.notTextEncoding name)
  /-- A number is expected where a byte is none of ASCII. -/
  | numeral {name : String} {byte : UInt8} {position : Nat} : Declares bs name "punycode" →
      Numeral bs byte position → Undecodable bs (.beyondAscii byte position)

/-! ### Numbers after the last hyphen -/

theorem takeWhile_eq_iff {α : Type} {p : α → Bool} {l t : List α} :
    l.takeWhile p = t ↔
      ∃ rest, l = t ++ rest ∧ (∀ a ∈ t, p a = true) ∧ ∀ a ∈ rest.head?, p a = false := by
  constructor
  · rintro rfl
    refine ⟨l.dropWhile p, List.takeWhile_append_dropWhile.symm,
      fun a ha => List.mem_takeWhile_imp ha, fun a ha => ?_⟩
    have hne : l.dropWhile p ≠ [] := by
      rintro hnil
      rw [hnil] at ha
      cases ha
    rw [List.head?_eq_some_head hne] at ha
    obtain rfl := Option.some.inj ha
    exact List.head_dropWhile_not p hne
  · rintro ⟨rest, rfl, ht, hrest⟩
    rw [List.takeWhile_append_of_pos ht]
    cases rest with
    | nil => simp
    | cons a rest => simp [hrest a rfl]

namespace Insertion

theorem numerals_eq_iff {bs t : List UInt8} :
    numerals bs = t ↔
      ∃ lead, bs = lead ++ t ∧ (lead = [] ∨ lead.getLast? = some 45) ∧ 45 ∉ t := by
  rw [numerals, List.reverse_eq_iff, takeWhile_eq_iff]
  constructor
  · rintro ⟨rest, hbs, ht, hrest⟩
    refine ⟨rest.reverse, by rw [← List.reverse_inj, hbs]; simp, ?_, fun h => ?_⟩
    · cases rest with
      | nil => exact .inl rfl
      | cons b rest => exact .inr (by simpa using hrest b rfl)
    · simpa using ht 45 (List.mem_reverse.2 h)
  · rintro ⟨lead, rfl, hlead, ht⟩
    refine ⟨lead.reverse, by simp, fun b hb => ?_, fun b hb => ?_⟩
    · have hne : b ≠ 45 := fun h => ht (h ▸ List.mem_reverse.1 hb)
      simpa using hne
    · rw [List.head?_reverse] at hb
      rcases hlead with rfl | hlead
      · cases hb
      · obtain rfl := Option.some.inj (hlead.symm.trans hb)
        decide

theorem numeral_iff {bs : List UInt8} {byte : UInt8} {position : Nat} :
    Numeral bs byte position ↔ ∃ before after, numerals bs = before ++ byte :: after ∧
      before.length = position ∧ (∀ b ∈ before, isAscii b = true) ∧ isAscii byte = false := by
  simp only [Numeral, numerals_eq_iff, isAscii, decide_eq_true_eq, decide_eq_false_iff_not,
    UInt8.not_lt]
  constructor
  · rintro ⟨lead, before, after, hbs, hposition, hlead, hnone, hbefore, hbyte⟩
    exact ⟨before, after, ⟨lead, by simpa using hbs, hlead, hnone⟩, hposition, hbefore, hbyte⟩
  · rintro ⟨before, after, ⟨lead, hbs, hlead, hnone⟩, hposition, hbefore, hbyte⟩
    exact ⟨lead, before, after, by simpa using hbs, hposition, hlead, hnone, hbefore, hbyte⟩

/-- The encoding refuses the first byte beyond ASCII after the last hyphen, and nothing else. -/
theorem read_error_iff {bs : List UInt8} {f : Fault} :
    read bs = .error f ↔
      ∃ byte position, f = .beyondAscii byte position ∧ Numeral bs byte position := by
  simp only [numeral_iff, read]
  generalize numerals bs = t
  constructor
  · intro h
    split at h
    · rename_i byte after hdrop
      refine ⟨byte, _, (Except.error.inj h).symm, t.takeWhile isAscii, after, ?_, rfl,
        fun b hb => List.mem_takeWhile_imp hb, ?_⟩
      · rw [← hdrop, List.takeWhile_append_dropWhile]
      · have hhead := List.head_dropWhile_not isAscii (l := t) (by simp [hdrop])
        simpa [hdrop] using hhead
    · cases h
  · rintro ⟨byte, _, rfl, before, after, rfl, rfl, hbefore, hbyte⟩
    rw [List.dropWhile_append_of_pos hbefore, List.takeWhile_append_of_pos hbefore,
      List.dropWhile_cons_of_neg (by simp [hbyte]), List.takeWhile_cons_of_neg (by simp [hbyte]),
      List.append_nil]

end Insertion

/-! ### Encodings of no use -/

section Codec

variable {name codec : String} {bs : List UInt8} {f : Fault}

theorem ofCodec?_eq_none_iff : Encoding.ofCodec? codec = none ↔ codec ∈ Encoding.otherCodecs := by
  unfold Encoding.ofCodec?
  split
  case h_29 =>
    split_ifs with h
    · exact iff_of_true rfl (by simpa using h)
    · refine iff_of_false ?_ (by simpa using h)
      cases singleByteTables.lookup codec <;> simp
  all_goals exact iff_of_false (by simp) (by decide)

theorem lookup_refusals_eq_some_iff {reason : String} :
    refusals.lookup codec = some reason ↔ (codec, reason) ∈ refusals := by
  by_cases hidna : codec = "idna"
  · subst hidna
    simp [refusals, eq_comm]
  · by_cases hundefined : codec = "undefined"
    · subst hundefined
      simp [refusals, List.lookup_cons, eq_comm]
    · have hnone : refusals.lookup codec = none := by
        simp [refusals, List.lookup_cons, beq_false_of_ne hidna, beq_false_of_ne hundefined]
      rw [hnone]
      simp [refusals, hidna, hundefined]

/-- The encodings that are none of texts are not looked up among the others that are of no use. -/
theorem lookup_refusals_of_mem (h : codec ∈ Encoding.otherCodecs) :
    refusals.lookup codec = none ∧ codec ≠ "punycode" := by
  revert codec
  decide

theorem readAs_error_iff (hname : name ≠ usual) (h : ofLabel? name.toList = some codec) :
    readAs name bs = .error f ↔
      (∃ reason, (codec, reason) ∈ refusals ∧ f = .unusableEncoding name reason) ∨
        (codec ∈ Encoding.otherCodecs ∧ f = .notTextEncoding name) ∨
        (codec = "punycode" ∧ Insertion.read bs = .error f) := by
  simp only [← lookup_refusals_eq_some_iff, readAs, if_neg hname, h]
  cases hrefused : refusals.lookup codec with
  | some reason =>
    have hother : codec ∉ Encoding.otherCodecs := fun hmem => by
      rw [(lookup_refusals_of_mem hmem).1] at hrefused
      cases hrefused
    have hcodec : codec ≠ "punycode" := by
      rintro rfl
      have hnone : refusals.lookup "punycode" = none := by decide
      rw [hnone] at hrefused
      cases hrefused
    simp [hother, hcodec, eq_comm]
  | none =>
    by_cases hcodec : codec = "punycode"
    · subst hcodec
      have hother : "punycode" ∉ Encoding.otherCodecs := by decide
      simp [hother]
    · cases he : Encoding.ofCodec? codec with
      | some e =>
        have hother : codec ∉ Encoding.otherCodecs := fun hmem => by
          rw [ofCodec?_eq_none_iff.2 hmem] at he
          cases he
        simp [hother, hcodec]
      | none => simp [ofCodec?_eq_none_iff.1 he, hcodec, eq_comm]

end Codec

/-! ### Pages -/

section Page

variable {bs : List UInt8}

theorem readAs_usual : readAs usual bs = .ok (Encoding.utf8.read bs) :=
  if_pos rfl

theorem readDeclared_of_none (h : label? bs = none) :
    readDeclared bs = .ok (Encoding.utf8.read bs) := by
  simp only [readDeclared, detect, h]
  exact readAs_usual

theorem readDeclared_of_illegible {name : String} (h : label? bs = some name)
    (hnull : Char.ofNat 0 ∈ name.toList) : readDeclared bs = .error .nullInName := by
  simp only [readDeclared, detect, h, if_pos (List.contains_iff_mem.2 hnull)]
  rfl

theorem readDeclared_of_unknown {name : String} (h : label? bs = some name)
    (hnull : Char.ofNat 0 ∉ name.toList) (hcodec : ofLabel? name.toList = none) :
    readDeclared bs = .ok (Encoding.utf8.read bs) := by
  have hlegible : ¬name.toList.contains (Char.ofNat 0) = true :=
    fun hmem => hnull (List.contains_iff_mem.1 hmem)
  simp only [readDeclared, detect, h, if_neg hlegible, hcodec]
  exact readAs_usual

theorem readDeclared_of_known {name codec : String} (h : label? bs = some name)
    (hnull : Char.ofNat 0 ∉ name.toList) (hcodec : ofLabel? name.toList = some codec) :
    readDeclared bs = readAs name bs := by
  have hlegible : ¬name.toList.contains (Char.ofNat 0) = true :=
    fun hmem => hnull (List.contains_iff_mem.1 hmem)
  simp only [readDeclared, detect, h, if_neg hlegible, hcodec]
  rfl

theorem Declares.readDeclared_error_iff {name codec : String} (h : Declares bs name codec)
    {f : Fault} :
    readDeclared bs = .error f ↔
      (∃ reason, (codec, reason) ∈ refusals ∧ f = .unusableEncoding name reason) ∨
        (codec ∈ Encoding.otherCodecs ∧ f = .notTextEncoding name) ∨
        (codec = "punycode" ∧ Insertion.read bs = .error f) := by
  rw [readDeclared_of_known h.label_eq h.legible h.codec_eq, readAs_error_iff h.unusual h.codec_eq]

/-- A page cannot be read in the encoding that it declares for one of these reasons and no
other. -/
theorem readDeclared_error_iff {f : Fault} : readDeclared bs = .error f ↔ Undecodable bs f := by
  constructor
  · intro h
    cases hlabel : label? bs with
    | none =>
      rw [readDeclared_of_none hlabel] at h
      cases h
    | some name =>
      by_cases hnull : Char.ofNat 0 ∈ name.toList
      · rw [readDeclared_of_illegible hlabel hnull] at h
        obtain rfl := Except.error.inj h
        exact .name hlabel hnull
      · cases hcodec : ofLabel? name.toList with
        | none =>
          rw [readDeclared_of_unknown hlabel hnull hcodec] at h
          cases h
        | some codec =>
          by_cases hname : name = usual
          · rw [readDeclared_of_known hlabel hnull hcodec, hname, readAs_usual] at h
            cases h
          · have hdeclares : Declares bs name codec := ⟨hlabel, hnull, hname, hcodec⟩
            rcases hdeclares.readDeclared_error_iff.1 h with
              ⟨reason, hreason, rfl⟩ | ⟨hother, rfl⟩ | ⟨rfl, hread⟩
            · exact .refused hdeclares hreason
            · exact .notText hdeclares hother
            · obtain ⟨byte, position, rfl, hnumeral⟩ := Insertion.read_error_iff.1 hread
              exact .numeral hdeclares hnumeral
  · intro h
    cases h with
    | name hlabel hnull => exact readDeclared_of_illegible hlabel hnull
    | refused hdeclares hreason =>
      exact hdeclares.readDeclared_error_iff.2 (.inl ⟨_, hreason, rfl⟩)
    | notText hdeclares hother =>
      exact hdeclares.readDeclared_error_iff.2 (.inr (.inl ⟨hother, rfl⟩))
    | numeral hdeclares hnumeral =>
      exact hdeclares.readDeclared_error_iff.2
        (.inr (.inr ⟨rfl, Insertion.read_error_iff.2 ⟨_, _, rfl, hnumeral⟩⟩))

/-- A name that cannot be looked up, an encoding that is not of texts or has no replacements, or
bytes that are none of ASCII. -/
theorem Undecodable.kind_mem {f : Fault} (h : Undecodable bs f) :
    f.kind ∈ [.lookup, .encoding, .decoding, .value] := by
  cases h with
  | name => simp [Fault.kind]
  | refused => simp [Fault.kind]
  | notText => simp [Fault.kind]
  | numeral => simp [Fault.kind]

/-- **Which pages are read in the encoding that they declare.** Take any bytes. They are read as
text unless they declare a name with a character of code zero in it, an encoding without
replacements, one that is none of texts, or the one that puts characters in, with a byte beyond
ASCII after the last hyphen; and then the fault says so. A page that declares nothing, or a name
that no encoding has, is read in the usual encoding. -/
theorem outcome_readDeclared (bs : List UInt8) :
    (∀ f, readDeclared bs = .error f ↔ Undecodable bs f) ∧
      ((∃ text, readDeclared bs = .ok text) ↔ ∀ f, ¬Undecodable bs f) ∧
      ((∀ name ∈ label? bs, Char.ofNat 0 ∉ name.toList ∧ ofLabel? name.toList = none) →
        readDeclared bs = .ok (Encoding.utf8.read bs)) := by
  refine ⟨fun f => readDeclared_error_iff, ?_, fun hname => ?_⟩
  · simp only [← readDeclared_error_iff]
    cases readDeclared bs with
    | error f => simp
    | ok text => simp
  · cases hlabel : label? bs with
    | none => exact readDeclared_of_none hlabel
    | some name =>
      obtain ⟨hnull, hcodec⟩ := hname name hlabel
      exact readDeclared_of_unknown hlabel hnull hcodec

/-- A page that declares nothing, with a character of two bytes and one byte that is unreadable. -/
theorem outcome_readDeclared_silent :
    let bs : List UInt8 := [60, 112, 62, 0xC3, 0xA9, 0xFF]
    (∀ name ∈ label? bs, Char.ofNat 0 ∉ name.toList ∧ ofLabel? name.toList = none) ∧
      readDeclared bs = .ok ['<', 'p', '>', 'é', missing] := by
  intro bs
  have hname : ∀ name ∈ label? bs,
      Char.ofNat 0 ∉ name.toList ∧ ofLabel? name.toList = none := by
    decide +kernel
  refine ⟨hname, ((outcome_readDeclared bs).2.2 hname).trans (congrArg Except.ok ?_)⟩
  decide +kernel

/-- A page declares an encoding that is none of texts, and is not read. -/
theorem readDeclared_base64 :
    let bs := "<meta charset=base64><p>x</p>".toList.map fun c => UInt8.ofNat c.toNat
    readDeclared bs = .error (.notTextEncoding "base64") := by
  intro bs
  have hdeclares : Declares bs "base64" "base64_codec" :=
    ⟨by decide +kernel, by decide, by decide, by decide +kernel⟩
  exact readDeclared_error_iff.2 (.notText hdeclares (by decide))

end Page

end Extraction.Charset
