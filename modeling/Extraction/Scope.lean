import Extraction.Notice

/-!
# Scopes

A scope is a root for selection: a document, or a node of it that has been selected before. Rules
are evaluated against any type of scopes with three operations.

## Main definitions

* `Scope` : the operations on a type of scopes.
* `Scope.extractAll` : the data of several nodes.
* `TableScope` : scopes that are given as data, without markup.
-/

namespace Extraction

/-- The operations on scopes of type `σ` whose nodes are of type `ν`. -/
class Scope (σ : Type) (ν : outParam Type) where
  /-- The nodes that a selector finds in a scope, in order; without a selector, the root alone. -/
  select : σ → Option String → Except Selector.Problem (List ν)
  /-- The datum of a node under the name of an attribute; without a name, its text. -/
  extract : ν → Option String → Value
  /-- The scope whose root is a node. -/
  enter : ν → σ

/-- The data of several nodes, in order. -/
def Scope.extractAll {ν : Type} (σ : Type) [Scope σ ν] (nodes : List ν) (name : Option String) :
    List Value :=
  nodes.map fun n => Scope.extract σ n name

/-- A scope that is given as data: what its root's attributes are, and which nodes every selector
finds. -/
inductive TableScope where
  | node (data : List (String × Value)) (found : List (String × List TableScope))
  deriving Inhabited

namespace TableScope

/-- The attributes of the root. -/
def data : TableScope → List (String × Value)
  | .node data _ => data

/-- The nodes that every selector finds. -/
def found : TableScope → List (String × List TableScope)
  | .node _ found => found

/-- The nodes that a selector finds; a selector that is not listed finds none. -/
def select (t : TableScope) : Option String → List TableScope
  | none => [t]
  | some selector => (t.found.lookup selector).getD []

/-- The datum under the name of an attribute. -/
def extract (t : TableScope) (name : Option String) : Value :=
  (t.data.lookup (name.getD "text")).getD .null

instance : Scope TableScope TableScope where
  select t selector := .ok (t.select selector)
  extract := extract
  enter := id

end TableScope

end Extraction
