/-!
# Finding, cutting and replacing parts of a text

Texts are lists of characters. A part is found at its first occurrence, reading from the left;
cutting repeats the search in what follows, so occurrences never overlap.

## Main definitions

* `Text.afterLead?` : what follows a given start of a text.
* `Text.cut?` : the texts before and after the first occurrence of a part.
* `Text.splitOn` : the pieces between the occurrences of a part.
* `Text.replaceFirst`, `Text.replaceAll` : the text with occurrences replaced.
* `Text.joinWith` : pieces with a separator between them.

## Main results

* `Text.cut?_eq_some` : the two sides of a cut and the part give back the text.
* `Text.joinWith_splitOn` : joining the pieces with the separator gives back the text.
-/

namespace Extraction.Text

/-- What follows a given start of a text, if the text starts so. -/
def afterLead? : List Char → List Char → Option (List Char)
  | [], s => some s
  | _ :: _, [] => none
  | p :: ps, c :: cs => if p = c then afterLead? ps cs else none

theorem afterLead?_eq_some {p s r : List Char} : afterLead? p s = some r ↔ s = p ++ r := by
  induction p generalizing s with
  | nil => simp [afterLead?, eq_comm]
  | cons a p ih =>
    cases s with
    | nil => simp [afterLead?]
    | cons c cs =>
      by_cases h : a = c
      · subst h
        simp [afterLead?, ih]
      · simp [afterLead?, h, Ne.symm h]

/-- Whether a text starts with another. -/
def startsWith (s lead : List Char) : Bool :=
  (afterLead? lead s).isSome

/-- The texts before and after the first occurrence of a part. -/
def cut? (part : List Char) : List Char → Option (List Char × List Char)
  | [] => if part = [] then some ([], []) else none
  | c :: cs =>
    match afterLead? part (c :: cs) with
    | some r => some ([], r)
    | none => (cut? part cs).map fun (a, b) => (c :: a, b)

theorem cut?_eq_some {part s a b : List Char} (h : cut? part s = some (a, b)) :
    s = a ++ part ++ b := by
  induction s generalizing a with
  | nil =>
    simp only [cut?] at h
    split at h <;> simp_all
  | cons c cs ih =>
    simp only [cut?] at h
    split at h
    · rename_i r hr
      simp only [Option.some.injEq, Prod.mk.injEq] at h
      obtain ⟨rfl, rfl⟩ := h
      simpa using afterLead?_eq_some.1 hr
    · obtain ⟨⟨a', b'⟩, hab, heq⟩ := Option.map_eq_some_iff.1 h
      simp only [Prod.mk.injEq] at heq
      obtain ⟨rfl, rfl⟩ := heq
      simp [ih hab]

theorem length_of_cut? {part s a b : List Char} (h : cut? part s = some (a, b)) :
    s.length = a.length + part.length + b.length := by
  rw [cut?_eq_some h]
  simp [Nat.add_assoc]

/-- Whether a part occurs in a text. -/
def hasPart (part s : List Char) : Bool :=
  (cut? part s).isSome

/-- The pieces between the occurrences of a part that starts with `p`. -/
def splitOnCons (p : Char) (ps s : List Char) : List (List Char) :=
  match _h : cut? (p :: ps) s with
  | none => [s]
  | some (a, b) => a :: splitOnCons p ps b
termination_by s.length
decreasing_by
  have := length_of_cut? _h
  simp at this
  omega

/-- The pieces between the occurrences of a part; an empty part separates every character. -/
def splitOn : List Char → List Char → List (List Char)
  | [], s => s.map ([·])
  | p :: ps, s => splitOnCons p ps s

/-- Pieces with a separator between them. -/
def joinWith (sep : List Char) : List (List Char) → List Char
  | [] => []
  | [a] => a
  | a :: b :: rest => a ++ sep ++ joinWith sep (b :: rest)

theorem splitOnCons_ne_nil (p : Char) (ps s : List Char) : splitOnCons p ps s ≠ [] := by
  unfold splitOnCons
  split <;> simp

/-- Joining the pieces between the occurrences of a non-empty part gives back the text. -/
theorem joinWith_splitOn (p : Char) (ps s : List Char) :
    joinWith (p :: ps) (splitOn (p :: ps) s) = s := by
  show joinWith (p :: ps) (splitOnCons p ps s) = s
  fun_induction splitOnCons p ps s with
  | case1 => rfl
  | case2 s a b h ih =>
    match hb : splitOnCons p ps b with
    | [] => exact absurd hb (splitOnCons_ne_nil p ps b)
    | x :: xs =>
      rw [joinWith, ← hb, ih]
      exact (cut?_eq_some h).symm

/-- The text with the first occurrence of a part replaced. -/
def replaceFirst (part replacement s : List Char) : List Char :=
  match cut? part s with
  | some (a, b) => a ++ replacement ++ b
  | none => s

/-- The text with every occurrence of a non-empty part replaced. -/
def replaceAll (part replacement s : List Char) : List Char :=
  joinWith replacement (splitOn part s)

end Extraction.Text
