/-!
# Powers of the bases of numbers

Numbers are computed with in base two and written in base ten.

## Main definitions

* `twoTo`, `tenTo` : the powers of the two bases.
-/

namespace Extraction

/-- A power of two. -/
def twoTo (n : Nat) : Nat :=
  Nat.pow 2 n

/-- A power of ten. -/
def tenTo (n : Nat) : Nat :=
  Nat.pow 10 n

end Extraction
