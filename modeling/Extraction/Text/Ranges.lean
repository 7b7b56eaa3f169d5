/-!
# Sets of characters as ascending intervals

A class of characters is a list of closed intervals of code points in ascending order. Membership
stops at the first interval that begins after the character.

## Main definitions

* `Text.Ranges` : a list of closed intervals.
* `Text.Ranges.contains` : whether a character lies in one of the intervals.
-/

namespace Extraction.Text

/-- Closed intervals of code points, in ascending order. -/
structure Ranges where
  /-- The first and last code point of each interval. -/
  intervals : List (Nat × Nat)

namespace Ranges

/-- Whether a code point lies in one of a list of ascending intervals. -/
def containsCode : List (Nat × Nat) → Nat → Bool
  | [], _ => false
  | (first, last) :: rest, n => first ≤ n && (n ≤ last || containsCode rest n)

/-- Whether a character lies in one of the intervals. -/
def contains (r : Ranges) (c : Char) : Bool :=
  containsCode r.intervals c.toNat

end Ranges

end Extraction.Text
