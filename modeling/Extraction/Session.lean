import Extraction.Extractor

/-!
# Sessions

In a session one extractor is used for several documents. It keeps the descriptors of the queries
that it has read in a store of its own. Extractions that are made on the side, each by an extractor
of the usual options, keep theirs in a second store, which they share.

## Main definitions

* `Session` : the state of a session.
* `Session.Step`, `Session.Answer` : the steps and what they answer.
* `Session.step`, `Session.run` : one step, and the answers of several.
* `Session.logged` : the notices that the log lets through.
-/

namespace Extraction

/-- The state of a session. -/
structure Session where
  /-- The extractor of the session. -/
  extractor : Extractor
  /-- The store of the extractor. -/
  own : Query.Cache
  /-- The store of the extractions on the side. -/
  shared : Query.Cache := {}
  /-- The documents that are kept, by their names; of two of one name the first one counts. -/
  kept : List (String × Markup.Place) := []
  /-- The notices so far. -/
  notices : List Notice := []

namespace Session

/-- A step of a session. -/
inductive Step where
  /-- A rule is evaluated in the document of some markup. -/
  | extract (markup rule : Value) (base : Option String) (filters : Overlay)
  /-- A rule is evaluated in the document of a page. -/
  | extractPage (name : String) (bytes : List UInt8) (rule : Value) (base : Option String)
      (filters : Overlay)
  /-- A document is made and kept under a name. -/
  | keep (name : String) (markup : Value) (base : Option String)
  /-- A rule is evaluated in a document that is kept. -/
  | evaluate (name : String) (rule : Value) (filters : Overlay)
  /-- A rule is evaluated on the side, in the document of some markup. -/
  | aside (markup rule : Value) (base : Option String) (filters : Overlay)
  /-- A rule is evaluated on the side, in the document of a page. -/
  | pageAside (name : String) (bytes : List UInt8) (rule : Value) (filters : Overlay)
  /-- The store of the extractor is cleared. -/
  | clear
  /-- The size of the shared store is asked for. -/
  | sharedSize

/-- What a step answers. -/
inductive Answer where
  /-- A value. -/
  | value (v : Value)
  /-- A document that is kept. -/
  | document (p : Markup.Place)
  /-- A number of descriptors. -/
  | count (n : Nat)
  /-- The step has failed. -/
  | failed (f : Failure)

/-- A session that begins with an extractor, with a store of a capacity or as its options say. -/
def start (x : Extractor) (capacity : Option Int) : Session :=
  { extractor := x, own := .empty (capacity.getD x.options.cacheSize) }

/-- What an outcome answers. -/
def Answer.ofOutcome : Except Failure Value → Answer
  | .ok v => .value v
  | .error f => .failed f

/-- A computation with the store of the extractor. -/
def withOwn {α : Type} (s : Session) (e : Evaluation α) : Except Failure α × Session :=
  let (outcome, t) := e.runFrom ⟨s.own, s.notices⟩
  (outcome, { s with own := t.cache, notices := t.notices })

/-- A computation with the shared store. -/
def withShared {α : Type} (s : Session) (e : Evaluation α) : Except Failure α × Session :=
  let (outcome, t) := e.runFrom ⟨s.shared, s.notices⟩
  (outcome, { s with shared := t.cache, notices := t.notices })

/-- A value that is computed with the store of the extractor. -/
def answerOwn (s : Session) (e : Evaluation Value) : Answer × Session :=
  let (outcome, after) := s.withOwn e
  (.ofOutcome outcome, after)

/-- A value that an extractor of the usual options computes on the side. -/
def answerAside (s : Session) (filters : Overlay) (e : Extractor → Evaluation Value) :
    Answer × Session :=
  let x := Extractor.usual filters s.extractor.call
  let (outcome, after) := s.withShared do
    x.begin
    e x
  (.ofOutcome outcome, after)

/-- One step. -/
def step [Engines] (s : Session) : Step → Answer × Session
  | .extract markup rule base filters =>
    s.answerOwn (s.extractor.extract markup rule base filters)
  | .extractPage name bytes rule base filters =>
    s.answerOwn (s.extractor.extractPage name bytes rule base filters)
  | .keep name markup base =>
    let (outcome, after) := s.withOwn (s.extractor.load markup base)
    match outcome with
    | .ok root => (.document root, { after with kept := (name, root) :: after.kept })
    | .error f => (.failed f, after)
  | .evaluate name rule filters =>
    match s.kept.lookup name with
    | some root => s.answerOwn (s.extractor.evaluate rule root filters)
    | none => (.failed (.fault (.nothingKept name)), s)
  | .aside markup rule base filters =>
    s.answerAside filters fun x => x.extract markup rule base []
  | .pageAside name bytes rule filters =>
    s.answerAside filters fun x => x.extractPage name bytes rule none []
  | .clear =>
    let count := s.own.size
    (.count count,
      { s with own := s.own.clear, notices := s.notices ++ [.cacheCleared count] })
  | .sharedSize => (.count s.shared.size, s)

/-- The answers of several steps, each with the size of the extractor's store after it, and the
session after them. -/
def run [Engines] (s : Session) : List Step → List (Answer × Nat) × Session
  | [] => ([], s)
  | first :: rest =>
    let (answer, after) := s.step first
    let (answers, last) := run after rest
    ((answer, after.own.size) :: answers, last)

/-- Whether the log of a session lets a notice through. -/
def lets (s : Session) (n : Notice) : Bool :=
  (s.extractor.options.channels.effectiveLevel (Log.partName n.origin)).rank ≤ n.severity.level

/-- The notices that the log of a session lets through. -/
def logged (s : Session) : List Notice :=
  s.notices.filter s.lets

end Session

end Extraction
