/-
  Php/Program.lean --- from the text of a PHP file to its tree.

  WHAT THIS FILE IS FOR.  Here the productions are tied together: each refers to the
  others through a `Grammar`, and `grammar` gives them each other with a bound on how
  deep they nest.

  THE BOUND.  Between two productions on the way down at most one takes no token, so
  twice the number of tokens is deep enough for every file.
-/
import RouteAudit.Php.Tokens
import RouteAudit.Php.Statement

set_option autoImplicit false

namespace RouteAudit.Php

open RouteAudit.Syntax
open Reader

/-! ## The knot -/

/-- The productions, down to the given depth. -/
def grammar : Nat → Grammar
  | 0 => .none
  | depth + 1 =>
    { expression := fun level tokens => expression (grammar depth) level tokens
      statement := fun tokens => statement (grammar depth) tokens
      members := fun tokens => members (grammar depth) tokens }

/-! ## Whole files -/

mutual

/-- The line of an element left out of an array that is no pattern. -/
def firstHole? : Node → Option Nat
  | ⟨head, line, children⟩ =>
    if head == .other hole then some line else firstHoleOf? children

/-- The first such line in a list of trees. -/
def firstHoleOf? : List Node → Option Nat
  | [] => none
  | t :: ts => (firstHole? t).or (firstHoleOf? ts)

end

/-- All statements of a file, up to its end. -/
def statements (g : Grammar) : Reader (List Piece) := do
  let inner ← many (·.kind != .finish) g.statement
  return inner ++ [← expect (·.kind == .finish)]

/-- The tree of a file, or the first fault. -/
def parse (source : String) : Except Fault Node := do
  let (opening, found) ← tokens source
  let pieces ← (statements (grammar (2 * found.length + 8))).run' found
  let body := pieces.flatMap fun p => p.before ++ p.nodes
  let children := opening ++ body
  match firstHoleOf? children with
  | some line => throw ⟨line⟩
  | none =>
    let line := match children with
      | first :: _ => first.line
      | [] => 1 + lineBreaks source.toList
    return ⟨.program, line, children⟩

end RouteAudit.Php
