import Extraction.Charset.Page
import Extraction.Markup.Source
import Extraction.Options

/-!
# Extractors

An extractor loads documents as its options say and evaluates rules against them. Its own filters
lie over the built-in ones, and those of a call over its own.

## Main definitions

* `Extractor` : the extractors.
* `Extractor.load` : the root of a document.
* `Extractor.evaluate` : the value of a rule in a scope.
* `Extractor.extract`, `Extractor.extractPage` : the value of a rule in a document that is made from
  markup or from the bytes of a page.
* `Extractor.usual` : an extractor with the usual options.
-/

namespace Extraction

/-- Options, filters and the meaning of functions. -/
structure Extractor where
  /-- The options. -/
  options : Options := {}
  /-- The filters that lie over the built-in ones. -/
  filters : Overlay := []
  /-- The meaning of functions. -/
  call : Interpreter

namespace Extractor

/-- An extractor with the usual options. -/
def usual (filters : Overlay) (call : Interpreter) : Extractor :=
  { filters, call }

/-- An extractor begins. -/
def begin (x : Extractor) : Evaluation Unit :=
  Evaluation.note [.sessionStarted x.options.builder]

/-- The address of a document: the one that is given, unless it is empty, or that of the options. -/
def address (x : Extractor) (given : Option String) : Option String :=
  (given.filter fun s => !s.isEmpty).or x.options.base

/-- What a document is made from. -/
def source (x : Extractor) (markup : Value) (base : Option String) : Markup.Source :=
  { markup, builder := .text x.options.builder, base := x.address base,
    keepsLinks := x.options.keepsLinks }

/-- The root of the document that is made from markup. -/
def load [Engines] (x : Extractor) (markup : Value) (base : Option String) :
    Evaluation Markup.Place :=
  (x.source markup base).load

/-- The filters and the functions of a call. -/
def evaluator (x : Extractor) (filters : Overlay) : Evaluator :=
  ⟨.merged (x.filters ++ filters), x.call⟩

/-- The value of a rule in a scope. -/
def evaluate [Engines] {σ ν : Type} [Scope σ ν] (x : Extractor) (rule : Value) (s : σ)
    (filters : Overlay) : Evaluation Value :=
  (x.evaluator filters).evaluate rule s

/-- The value of a rule in the document that is made from markup. -/
def extract [Engines] (x : Extractor) (markup rule : Value) (base : Option String)
    (filters : Overlay) : Evaluation Value := do
  let root ← x.load markup base
  x.evaluate rule root filters

/-- The text of a page, in the encoding that it declares. -/
def readPage (name : String) (bs : List UInt8) : Evaluation String := do
  let (found, notices) := Charset.detect bs
  Evaluation.note notices
  match found with
  | .error f => throw (.fault f)
  | .ok charset =>
    match Charset.readAs charset bs with
    | .error f => throw (.fault f)
    | .ok text =>
      Evaluation.note [.fileLoaded name charset]
      return String.ofList text

/-- The value of a rule in the document that is made from the bytes of a page. -/
def extractPage [Engines] (x : Extractor) (name : String) (bs : List UInt8) (rule : Value)
    (base : Option String) (filters : Overlay) : Evaluation Value := do
  let text ← readPage name bs
  x.extract (.text text) rule base filters

end Extractor

end Extraction
