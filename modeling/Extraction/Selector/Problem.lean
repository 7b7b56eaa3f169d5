import Extraction.Fault

/-!
# Problems of selectors

## Main definitions

* `Selector.Problem` : why a selector finds nothing.
-/

namespace Extraction.Selector

/-- Why a selector finds nothing. -/
inductive Problem where
  /-- The text breaks a rule of the notation. -/
  | malformed (reason : String)
  /-- The search breaks off. -/
  | fault (f : Fault)
  deriving Repr

end Extraction.Selector
