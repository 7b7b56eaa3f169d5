import Extraction.Evaluation

/-!
# Sessions on a store of descriptors

A session is a run of steps on one store. Reading a query shows which descriptor it gave: one that
an earlier reading of the session gave, or one that none has given before. A descriptor in the
store is the same one until the store is cleared.

## Main definitions

* `Query.Session` : the store, and which readings gave the descriptors in it.
* `Query.Session.Step`, `Query.Session.Answer` : the steps and what they answer.
* `Query.Session.step` : one step.
* `Query.Session.run` : the answers of a run, each with the size of the store after it.
-/

namespace Extraction.Query

/-- The store of a session, and which readings gave the descriptors in it. -/
structure Session where
  /-- The store. -/
  trace : Trace
  /-- The number of queries that have been read. -/
  readings : Nat := 0
  /-- For the keys of the store, the first reading that gave the descriptor. -/
  firstReading : List (String × Nat) := []

namespace Session

/-- A step of a session. -/
inductive Step where
  /-- A query is read. -/
  | parse (query : Value)
  /-- A key is looked for. -/
  | contains (key : String)
  /-- The descriptor of a key is asked for. -/
  | get (key : String)
  /-- A descriptor is put under a key. -/
  | put (key : String) (d : Descriptor)
  /-- The store is cleared. -/
  | clear

/-- What a step answers. -/
inductive Answer where
  /-- The descriptor of a query, and the first reading that gave it. -/
  | parsed (d : Descriptor) (sameAs : Nat)
  /-- The query is refused. -/
  | failed (f : Failure)
  /-- Whether a key is in the store. -/
  | present (found : Bool)
  /-- The descriptor of a key. -/
  | found (d : Option Descriptor)
  /-- How many descriptors the store had. -/
  | cleared (count : Nat)

/-- A query is read. -/
def parse (s : Session) (query : Value) : Answer × Session :=
  let (outcome, after) := (Query.parse query).runFrom s.trace
  match outcome with
  | .error f => (.failed f, { s with trace := after })
  | .ok d =>
    let key := (trimmedText query).toOption.getD ""
    let first :=
      if s.trace.cache.contains key then (s.firstReading.lookup key).getD s.readings else s.readings
    let firstReading :=
      if after.cache.contains key then (key, first) :: s.firstReading else s.firstReading
    (.parsed d first, { trace := after, readings := s.readings + 1, firstReading })

/-- One step. -/
def step (s : Session) : Step → Answer × Session
  | .parse query => s.parse query
  | .contains key => (.present (s.trace.cache.contains key), s)
  | .get key => (.found (s.trace.cache.get? key), s)
  | .put key d =>
    let (put, cache) := s.trace.cache.put key d
    (.present put.succeeds, { s with trace := { s.trace with cache } })
  | .clear =>
    (.cleared s.trace.cache.size,
      { s with trace := { s.trace with cache := s.trace.cache.clear }, firstReading := [] })

/-- The answers of a run, each with the size of the store after it. -/
def run (s : Session) : List Step → List (Answer × Nat)
  | [] => []
  | first :: rest =>
    let (answer, after) := s.step first
    (answer, after.trace.cache.size) :: run after rest

end Session

end Extraction.Query
