import Extraction.Text.Blank
import Extraction.Text.Word
import Extraction.Text.Search

/-!
# Selector shorthands

Two spellings of selectors that the selector engine does not know are replaced by ones that it
does: a class name with its dot in brackets by the class alone, and `:not-empty` by the negation of
`:empty`. Everything else passes through.

## Main definitions

* `Query.expandClasses` : `[ .name ]` becomes `.name`.
* `Query.expandNotEmpty` : `:not-empty` becomes `:not(:empty)`.
* `Query.expandShorthands` : both, in this order.
-/

namespace Extraction.Query

open Text

/-- Whether a character may stand in a class name between brackets. -/
def isClassChar (c : Char) : Bool :=
  isWord c || c = '-'

/-- What a text starts with if it is a bracket, a class name with its dot, and a bracket: the class
name and what follows. Blanks may stand inside the brackets. -/
def readClassCondition? : List Char → Option (List Char × List Char)
  | '[' :: rest =>
    match rest.dropWhile isBlank with
    | '.' :: body =>
      let name := body.takeWhile isClassChar
      match name, (body.dropWhile isClassChar).dropWhile isBlank with
      | _ :: _, ']' :: after => some (name, after)
      | _, _ => none
    | _ => none
  | _ => none

theorem length_of_readClassCondition? {s name after : List Char}
    (h : readClassCondition? s = some (name, after)) : after.length < s.length := by
  unfold readClassCondition? at h
  split at h
  · rename_i rest
    split at h
    · rename_i body hbody
      simp only at h
      split at h
      · rename_i c cs after' hname hafter
        simp only [Option.some.injEq, Prod.mk.injEq] at h
        obtain ⟨-, rfl⟩ := h
        have h1 := (List.dropWhile_suffix isBlank (l := rest)).length_le
        have h2 := (List.dropWhile_suffix isClassChar (l := body)).length_le
        have h3 := (List.dropWhile_suffix isBlank (l := body.dropWhile isClassChar)).length_le
        rw [hbody] at h1
        rw [hafter] at h3
        simp only [List.length_cons] at *
        omega
      · simp at h
    · simp at h
  · simp at h

/-- Every class name in brackets becomes the class alone, reading from the left. -/
def expandClasses (s : List Char) : List Char :=
  match _h : readClassCondition? s with
  | some (name, after) => '.' :: name ++ expandClasses after
  | none =>
    match s with
    | [] => []
    | c :: rest => c :: expandClasses rest
termination_by s.length
decreasing_by
  · exact length_of_readClassCondition? _h
  · simp

/-- What follows `:not-empty` at the start of a text, unless the word goes on. -/
def readNotEmpty? (s : List Char) : Option (List Char) :=
  match afterLead? ":not-empty".toList s with
  | some [] => some []
  | some (c :: rest) => if isWord c then none else some (c :: rest)
  | none => none

theorem length_of_readNotEmpty? {s after : List Char} (h : readNotEmpty? s = some after) :
    after.length < s.length := by
  have key : afterLead? ":not-empty".toList s = some after := by
    unfold readNotEmpty? at h
    split at h <;> simp_all
  rw [afterLead?_eq_some.1 key]
  simp
  omega

/-- Every `:not-empty` becomes `:not(:empty)`, reading from the left. -/
def expandNotEmpty (s : List Char) : List Char :=
  match _h : readNotEmpty? s with
  | some after => ":not(:empty)".toList ++ expandNotEmpty after
  | none =>
    match s with
    | [] => []
    | c :: rest => c :: expandNotEmpty rest
termination_by s.length
decreasing_by
  · exact length_of_readNotEmpty? _h
  · simp

/-- A selector with its shorthands replaced. -/
def expandShorthands (s : List Char) : List Char :=
  expandNotEmpty (expandClasses s)

end Extraction.Query
