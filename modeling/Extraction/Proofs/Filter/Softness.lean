import Extraction.Evaluation
import Extraction.Proofs.Filter.Warnings

/-!
# Filters report no errors

What a filter cannot use it leaves as it is, with a warning. So the notices of a reply are warnings,
whichever filter answers and whether it has a value or a fault; that a filter has failed is said by
the evaluation, not by the filter.

## Main definitions

* `Reply.Soft` : the notices of a reply are warnings.

## Main results

* `Filter.Builtin.soft_run` : the built-in filters.
* `Evaluator.soft_reply` : all filters.
-/

namespace Extraction

namespace Reply

/-- The notices of a reply are warnings. -/
def Soft (r : Reply) : Prop :=
  ∀ n ∈ r.notices, n.severity = .warning

theorem soft_ok (v : Value) : (ok v).Soft :=
  fun _ hn => by cases hn

theorem soft_fail (f : Fault) : (fail f).Soft :=
  fun _ hn => by cases hn

theorem soft_ofExcept (r : Except Fault Value) : (ofExcept r).Soft :=
  fun _ hn => by cases hn

theorem soft_warn (v : Value) {n : Notice} (hn : n.severity = .warning) : (warn v n).Soft :=
  fun _ hm => List.mem_singleton.1 hm ▸ hn

theorem Tells.soft {found : Value → Prop} {standIn : Value} {r : Reply}
    (h : r.Tells found standIn) : r.Soft := by
  cases h with
  | failed f => exact soft_fail f
  | found hv => exact soft_ok _
  | missed hn => exact soft_warn _ hn

end Reply

namespace Filter

open Reply

theorem soft_allMatches (v : Value) (arguments : List Value) : (allMatches v arguments).Soft := by
  cases v with
  | text s => exact (tells_allMatches s arguments).soft
  | _ => exact soft_ok _

theorem soft_replace (v : Value) (arguments : List Value) : (replace v arguments).Soft := by
  cases v with
  | text s => exact (tells_replace s arguments).soft
  | _ => exact soft_ok _

theorem soft_size (v : Value) : (size v).Soft := by
  cases v with
  | text s => exact (tells_size s).soft
  | _ => exact soft_ok _

theorem Builtin.soft_apply [Engines] (b : Builtin) (v : Value) (arguments : List Value) :
    (b.apply v arguments).Soft := by
  cases b with
  | toInteger | toFloat | slice | split | join | unique | sort | number => exact soft_ofExcept _
  | regex => exact soft_allMatches v arguments
  | replace => exact soft_replace v arguments
  | date => exact (tells_date v arguments).soft
  | size => exact soft_size v
  | _ => exact soft_ok _

/-- A built-in filter reports no error, with any arguments. -/
theorem Builtin.soft_run [Engines] (b : Builtin) (v : Value) (arguments : List Value) :
    (b.run v arguments).Soft := by
  unfold run
  split
  · exact soft_fail _
  · exact b.soft_apply v arguments

end Filter

/-- No filter reports an error, be it built-in or given by a caller. -/
theorem Evaluator.soft_reply [Engines] (ev : Evaluator) (entry : Filter.Entry) (v : Value)
    (arguments : List Value) : (ev.reply entry v arguments).Soft := by
  cases entry with
  | builtin b => exact b.soft_run v arguments
  | given f =>
    unfold reply
    dsimp only
    split
    · exact Reply.soft_ofExcept _
    · exact Reply.soft_fail _

end Extraction
