/-
  Coverage/Visit.lean --- which routes a part of a test acts on.

  WHAT THIS FILE IS FOR.  A test acts on a route when it hands it to an acting call:
  as a literal, as a variable that holds one, or either of these wrapped in a call of
  the route function.  Only the first argument counts.  The nodes are taken in the
  order of the text; bindings go by the name of the variable alone and are forgotten
  at every method.
-/
import RouteAudit.Coverage.Bindings
import RouteAudit.Coverage.Vocabulary
import RouteAudit.Tally

set_option autoImplicit false

namespace RouteAudit.Coverage

open RouteAudit.Syntax

/-- What is known in the middle of a visit. -/
structure Tracker where
  bindings : Bindings := {}
  occurrences : Tally String := .empty

namespace Vocabulary

/-- The variable and the literal of an assignment that binds one to the other. -/
def binding? (v : Vocabulary) (assign : Node) : Option (String × String) :=
  match assign.children with
  | [⟨.var name, _, _⟩, ⟨.stringLiteral value, _, _⟩] => some (name, value)
  | [⟨.var name, _, _⟩, ⟨.functionCall callee, line, children⟩] =>
    if v.isRouteCall ⟨.functionCall callee, line, children⟩ then
      match Node.firstArgument? ⟨.functionCall callee, line, children⟩ with
      | some ⟨.stringLiteral value, _, _⟩ => some (name, value)
      | _ => none
    else none
  | _ => none

/-- The route that a node stands for: a literal itself, a variable its value. -/
def namedRoute? (b : Bindings) : Node → Option String
  | ⟨.stringLiteral value, _, _⟩ => some value
  | ⟨.var name, _, _⟩ => if name = "this" then none else b.get? name
  | _ => none

/-- The expression that names the route in a first argument: what the route function is
called with, and any other argument itself. -/
def routeExpression? (v : Vocabulary) (argument : Node) : Option Node :=
  if argument.category = .functionCall && v.isRouteCall argument then argument.firstArgument?
  else some argument

/-- The route that a method call acts on. -/
def actedRoute? (v : Vocabulary) (b : Bindings) (call : Node) : Option String :=
  if call.name?.any v.actingMethods.contains then
    (call.firstArgument?.bind v.routeExpression?).bind (namedRoute? b)
  else none

/-- What a node adds to what is known. -/
def step (v : Vocabulary) (r : Tracker) (t : Node) : Tracker :=
  match t.category with
  | .method => { r with bindings := .empty }
  | .assign =>
    match v.binding? t with
    | some (name, value) => { r with bindings := r.bindings.bind name value }
    | none => r
  | .methodCall =>
    match v.actedRoute? r.bindings t with
    | some route => { r with occurrences := r.occurrences.mark route }
    | none => r
  | _ => r

/-- Go through all nodes of a scope. -/
def visit (v : Vocabulary) (r : Tracker) (scope : Node) : Tracker :=
  scope.visitAll v.step r

end Vocabulary

end RouteAudit.Coverage
