/-
  Syntax/Search.lean --- searching a tree for nodes.

  WHAT THIS FILE IS FOR.  A selector accepts nodes by category and by tests.  A search
  with one selector yields all accepted nodes, or only the outermost; a search with
  several is a pipeline in which each selector looks below what the one before it found.
  The node a search starts from takes part in it.
-/
import RouteAudit.Syntax.Walk

set_option autoImplicit false

namespace RouteAudit.Syntax

/-! ## Selectors -/

/-- A category, if one is asked for, and tests that must all hold. -/
structure Selector where
  category : Option Category := none
  tests : List (Node → Bool) := []

namespace Selector

/-- The selector that accepts every node. -/
def any : Selector := {}

/-- The selector for one category. -/
def of (category : Category) : Selector := { category := some category }

/-- The selector with one more test. -/
def and (f : Selector) (test : Node → Bool) : Selector := { f with tests := f.tests ++ [test] }

/-- Whether a node is accepted. -/
def accepts (f : Selector) (t : Node) : Bool :=
  f.category.all (· = t.category) && f.tests.all (· t)

end Selector

/-! ## Searches -/

/-- Whether a search goes on below an accepted node. -/
inductive Nesting where
  /-- accepted nodes are not searched for more -/
  | outermost
  | all
  deriving DecidableEq, Repr, Inhabited

namespace Node

/-- How a search goes on at an accepted node. -/
def afterMatch : Nesting → Advance
  | .outermost => .past
  | .all => .into

/-- Work through the accepted nodes in the order of the walk. -/
def each {σ : Type} (f : Selector) (nesting : Nesting) (step : σ → Node → σ) (s : σ) (t : Node) : σ :=
  (t.walk (fun s node => if f.accepts node then (step s node, afterMatch nesting) else (s, .into))
    s).1

/-- The accepted nodes. -/
def filter (f : Selector) (nesting : Nesting) (t : Node) : List Node :=
  (t.each f nesting (fun found node => node :: found) []).reverse

/-- The first accepted node. -/
def first? (f : Selector) (t : Node) : Option Node :=
  (t.walk (fun found node => if f.accepts node then (some node, .halt) else (found, .into))
    none).1

/-- The first node that a pipeline of selectors leads to; without selectors the node itself. -/
def find? : List Selector → Node → Option Node
  | [], t => some t
  | [f], t => t.first? f
  | f :: g :: rest, t => (t.filter f .outermost).findSome? (find? (g :: rest))

/-- Whether a pipeline of selectors leads to a node. -/
def has (selectors : List Selector) (t : Node) : Bool := (t.find? selectors).isSome

end Node

end RouteAudit.Syntax
