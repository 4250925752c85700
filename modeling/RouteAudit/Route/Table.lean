/-
  Route/Table.lean --- the known routes of an application, addressable by name.

  WHAT THIS FILE IS FOR.  The table keeps all routes in order and an index of their
  names.  Of several routes with one name the first is found by it; empty names are not
  indexed.
-/
import RouteAudit.Json.Reader
import RouteAudit.Route.Basic
import Std.Data.HashMap

set_option autoImplicit false

namespace RouteAudit

/-- Routes in order, and the places of their names. -/
structure RouteTable where
  routes : Array Route := #[]
  places : Std.HashMap String Nat := {}
  deriving Inhabited

namespace RouteTable

/-- The table without routes. -/
def empty : RouteTable := {}

/-- The table with one more route at its end. -/
def push (t : RouteTable) (r : Route) : RouteTable where
  routes := t.routes.push r
  places :=
    match r.name with
    | some name => if name.isEmpty then t.places else t.places.insertIfNew name t.routes.size
    | none => t.places

/-- The table of routes in order. -/
def ofList (routes : List Route) : RouteTable := routes.foldl push empty

/-- Whether there are no routes. -/
def isEmpty (t : RouteTable) : Bool := t.routes.isEmpty

/-- The first route of a name. -/
def get? (t : RouteTable) (name : String) : Option Route :=
  t.places[name]?.bind (t.routes[·]?)

/-- The routes that an input stands for: the name `*` for all, another name for the
route of that name or one of which nothing else is known. -/
def resolve (t : RouteTable) : RouteInput → List Route
  | .name name =>
    if name = "*" then t.routes.toList else [(t.get? name).getD (.stringable name)]
  | .route route => [route]

/-- The routes that inputs stand for, in order. -/
def resolveAll (t : RouteTable) (inputs : List RouteInput) : List Route :=
  inputs.flatMap t.resolve

/-! ## Reading -/

/-- The route that an item of a list stands for. -/
def routeOfJson (j : Json) : Except AuditError Route :=
  (RouteInput.ofJson j).map fun
    | .name name => .stringable name
    | .route route => route

/-- The table that a list of routes stands for. -/
def ofItems (items : List Json) : Except AuditError RouteTable := do
  return ofList (← items.mapM routeOfJson)

/-- The table that the text of a JSON list stands for. -/
def parse (text : String) : Except AuditError RouteTable :=
  match Json.parseList text with
  | .ok items => ofItems (items.map Json.sorted)
  | .error reason => .error (.json reason)

end RouteTable

end RouteAudit
