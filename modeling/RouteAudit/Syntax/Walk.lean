/-
  Syntax/Walk.lean --- visiting the nodes of a tree.

  WHAT THIS FILE IS FOR.  Every search and every count over a tree is a walk: nodes
  are entered before their children, children in order, and the visitor decides at
  each node how to go on.  `preorder` is the list of nodes that a walk enters when
  the visitor never decides otherwise.
-/
import RouteAudit.Syntax.Node

set_option autoImplicit false

namespace RouteAudit.Syntax

/-- How a walk goes on behind a node. -/
inductive Advance where
  /-- to its children -/
  | into
  /-- past its children -/
  | past
  /-- not at all -/
  | halt
  deriving DecidableEq, Repr, Inhabited

/-- A visitor with a state: what it makes of a node, and how to go on. -/
abbrev Visitor (σ : Type) := σ → Node → σ × Advance

namespace Node

mutual

/-- Walk over a tree; the state at the end, and whether the walk was not halted. -/
def walk {σ : Type} (visit : Visitor σ) (s : σ) : Node → σ × Bool
  | ⟨head, line, children⟩ =>
    match visit s ⟨head, line, children⟩ with
    | (s, .halt) => (s, false)
    | (s, .past) => (s, true)
    | (s, .into) => walkAll visit s children

/-- Walk over trees, one after the other, until a walk is halted. -/
def walkAll {σ : Type} (visit : Visitor σ) (s : σ) : List Node → σ × Bool
  | [] => (s, true)
  | t :: ts =>
    match walk visit s t with
    | (s, false) => (s, false)
    | (s, true) => walkAll visit s ts

end

mutual

/-- The nodes of a tree, each before its children. -/
def preorder : Node → List Node
  | ⟨head, line, children⟩ => ⟨head, line, children⟩ :: preorderAll children

/-- The nodes of a list of trees. -/
def preorderAll : List Node → List Node
  | [] => []
  | t :: ts => t.preorder ++ preorderAll ts

end

/-- Enter every node. -/
def visitAll {σ : Type} (step : σ → Node → σ) (s : σ) (t : Node) : σ :=
  (t.walk (fun s node => (step s node, .into)) s).1

end Node

end RouteAudit.Syntax
