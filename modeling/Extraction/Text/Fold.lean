import Extraction.Text.Case

/-!
# Characters that agree without case

Two characters agree without case if their lower forms are equal, or are different lower forms of
one upper form, as the two small sigmas are.

## Main definitions

* `Text.sameLower` : the other lower forms of a lower character's upper form.
* `Text.agrees` : whether two characters agree without case.
* `Text.rangeAgrees` : whether a character agrees with one in an interval.
-/

namespace Extraction.Text

/-- The lower characters that share their upper form with other ones. -/
def lowerSiblings : List (Nat × List Nat) :=
  [(0x69, [0x131]), (0x73, [0x17F]), (0xB5, [0x3BC]), (0x131, [0x69]), (0x17F, [0x73]),
   (0x345, [0x3B9, 0x1FBE]), (0x390, [0x1FD3]), (0x3B0, [0x1FE3]), (0x3B2, [0x3D0]),
   (0x3B5, [0x3F5]), (0x3B8, [0x3D1]), (0x3B9, [0x345, 0x1FBE]), (0x3BA, [0x3F0]),
   (0x3BC, [0xB5]), (0x3C0, [0x3D6]), (0x3C1, [0x3F1]), (0x3C2, [0x3C3]), (0x3C3, [0x3C2]),
   (0x3C6, [0x3D5]), (0x3D0, [0x3B2]), (0x3D1, [0x3B8]), (0x3D5, [0x3C6]), (0x3D6, [0x3C0]),
   (0x3F0, [0x3BA]), (0x3F1, [0x3C1]), (0x3F5, [0x3B5]), (0x432, [0x1C80]), (0x434, [0x1C81]),
   (0x43E, [0x1C82]), (0x441, [0x1C83]), (0x442, [0x1C84, 0x1C85]), (0x44A, [0x1C86]),
   (0x463, [0x1C87]), (0x1C80, [0x432]), (0x1C81, [0x434]), (0x1C82, [0x43E]), (0x1C83, [0x441]),
   (0x1C84, [0x442, 0x1C85]), (0x1C85, [0x442, 0x1C84]), (0x1C86, [0x44A]), (0x1C87, [0x463]),
   (0x1C88, [0xA64B]), (0x1E61, [0x1E9B]), (0x1E9B, [0x1E61]), (0x1FBE, [0x345, 0x3B9]),
   (0x1FD3, [0x390]), (0x1FE3, [0x3B0]), (0xA64B, [0x1C88]), (0xFB05, [0xFB06]),
   (0xFB06, [0xFB05])]

/-- The other lower forms of a lower character's upper form. -/
def sameLower (c : Char) : List Char :=
  ((lowerSiblings.lookup c.toNat).getD []).map Char.ofNat

/-- Whether two characters agree without case. -/
def agrees (a b : Char) : Bool :=
  let la := simpleLower a
  let lb := simpleLower b
  la == lb || (sameLower la).contains lb

/-- The characters of a run whose lower form is a given one. -/
def loweredFrom (n : Nat) : List (Nat × Nat × Nat × Int) → List Nat
  | [] => []
  | (first, last, step, shift) :: rest =>
    let m := ((n : Int) - shift).toNat
    if first ≤ m && m ≤ last && (m - first) % step == 0 then m :: loweredFrom n rest
    else loweredFrom n rest

/-- The characters with a given lower form. -/
def raisedForms (c : Char) : List Nat :=
  (if simpleLower c = c then [c.toNat] else []) ++ (if c = 'i' then [0x130] else []) ++
    loweredFrom c.toNat lowerRuns

/-- Whether a character agrees without case with one between two code points. -/
def rangeAgrees (first last : Nat) (c : Char) : Bool :=
  let l := simpleLower c
  (l :: sameLower l).any fun m => (raisedForms m).any fun n => first ≤ n && n ≤ last

end Extraction.Text
