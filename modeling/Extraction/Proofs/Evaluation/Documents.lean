import Extraction.Extractor
import Extraction.Proofs.Evaluation.Settled

/-!
# Extracting from documents is settled

Making a document from markup does not use the store of descriptors at all, and neither does
reading a page. So an extraction from a document yields the same whatever reading has put into the
store before it.

## Main results

* `Markup.Source.settled_load` : the root of a document.
* `Extractor.load_of_build` : what is loaded without an address.
* `Extractor.settled_extract`, `Extractor.settled_extractPage` : the value of a rule in a document.
-/

namespace Extraction

open Evaluation

namespace Markup.Source

theorem settled_builderOf (name : Value) : (builderOf name).Settled := by
  unfold builderOf
  split
  · split
    · exact settled_pure _
    · exact settled_throw _
  · exact settled_throw _

theorem settled_documentOf [Engines] (b : Builder) (markup : Value) :
    (documentOf b markup).Settled := by
  unfold documentOf
  split
  · exact settled_ofExcept _
  · exact settled_ofExcept _
  · exact settled_throw _

theorem settled_withLinks (s : Source) (d : Document) : (s.withLinks d).Settled := by
  unfold withLinks
  split
  · split
    · exact settled_pure _
    · split
      · exact (settled_note _).bind fun _ => settled_pure _
      · exact settled_throw _
  · exact settled_pure _

theorem settled_load [Engines] (s : Source) : s.load.Settled := by
  unfold load
  split
  · exact settled_throw _
  · exact (settled_builderOf _).bind fun b => (settled_documentOf b _).bind fun d =>
      (s.settled_withLinks d).bind fun _ => settled_pure _

end Markup.Source

namespace Extractor

variable (x : Extractor)

theorem settled_begin : x.begin.Settled :=
  settled_note _

theorem settled_load [Engines] (markup : Value) (base : Option String) :
    (x.load markup base).Settled :=
  (x.source markup base).settled_load

/-- Without an address, what is loaded is the root of the document that the tree builder makes. -/
theorem load_of_build [Engines] {b : Markup.Builder} {text : String} {d : Markup.Document}
    (hname : Markup.Builder.ofName? x.options.builder = some b)
    (hbuild : Engines.build b text.toList = .ok d) (hbase : x.options.base = none) :
    x.load (.text text) none = pure (.root d) := by
  have hnone : x.address none = none := by simp [address, hbase]
  simp only [load, source, hnone, Markup.Source.load, Markup.Source.builderOf, hname,
    Markup.Source.documentOf, Markup.Source.withLinks, pure_bind, hbuild]
  rfl

theorem settled_evaluate [Engines] {σ ν : Type} [Scope σ ν] (rule : Value) (s : σ)
    (filters : Overlay) : (x.evaluate rule s filters).Settled :=
  (x.evaluator filters).settled_evaluate rule s

theorem settled_extract [Engines] (markup rule : Value) (base : Option String) (filters : Overlay) :
    (x.extract markup rule base filters).Settled :=
  (x.settled_load markup base).bind fun root => x.settled_evaluate rule root filters

theorem settled_readPage (name : String) (bs : List UInt8) : (readPage name bs).Settled := by
  refine (settled_note _).bind fun _ => ?_
  split
  · exact settled_throw _
  · split
    · exact settled_throw _
    · exact (settled_note _).bind fun _ => settled_pure _

theorem settled_extractPage [Engines] (name : String) (bs : List UInt8) (rule : Value)
    (base : Option String) (filters : Overlay) :
    (x.extractPage name bs rule base filters).Settled :=
  (settled_readPage name bs).bind fun _ => x.settled_extract _ rule base filters

end Extractor

end Extraction
