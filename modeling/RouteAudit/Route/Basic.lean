/-
  Route/Basic.lean --- the routes of an application.

  WHAT THIS FILE IS FOR.  A route has an address, and mostly a name by which it is
  identified; without one the address identifies it.  In the list of routes to audit a
  bare name may stand for a route.
-/
import RouteAudit.Error
import RouteAudit.Route.Middleware

set_option autoImplicit false

namespace RouteAudit

open RouteAudit.Decode

/-! ## Routes -/

/-- Whether a nested route only finds children that belong to their parent. -/
inductive ScopedBindings where
  | enforced
  | notEnforced
  | unknown
  deriving DecidableEq, Repr, Inhabited

namespace ScopedBindings

/-- The state as an optional truth value. -/
def toOption : ScopedBindings → Option Bool
  | .enforced => some true
  | .notEnforced => some false
  | .unknown => none

/-- The state that an optional truth value stands for. -/
def ofOption : Option Bool → ScopedBindings
  | some true => .enforced
  | some false => .notEnforced
  | none => .unknown

@[simp] theorem ofOption_toOption (s : ScopedBindings) : ofOption s.toOption = s := by
  cases s <;> rfl

end ScopedBindings

/-- A route of an application. -/
structure Route where
  name : Option String := none
  uri : String
  middleware : List Middleware := []
  scopedBindings : ScopedBindings := .unknown
  deriving DecidableEq, Repr, Inhabited

namespace Route

/-- The route of which only a name is known, which then is its address too. -/
def stringable (name : String) : Route := { name := some name, uri := name }

/-- The name of a route if it has one that is not empty, otherwise its address. -/
def identifier (r : Route) : String :=
  match r.name with
  | some name => if name.isEmpty then r.uri else name
  | none => r.uri

@[simp] theorem identifier_stringable (name : String) : (stringable name).identifier = name := by
  simp [stringable, identifier]

/-! ## The JSON form -/

/-- The object that says all of a route. -/
def toJson (r : Route) : Json :=
  .object [("name", .ofOption .string r.name), ("uri", .string r.uri),
    ("middleware", .ofList Middleware.toJson r.middleware),
    ("scoped_bindings", .ofOption .bool r.scopedBindings.toOption)]

/-- The fields of a route. -/
def record : Record Json Route :=
  (fun name uri middleware bindings => ⟨name, uri, middleware, .ofOption bindings⟩)
    <$> .optional "name" none (Json.format.option Json.format.string)
    <*> .required "uri" Json.format.string
    <*> .optional "middleware" [] (Json.format.list Middleware.ofJson) ["middlewares"]
    <*> .optional "scoped_bindings" none (Json.format.option Json.format.bool)

/-- The route that an object stands for. -/
def ofJson (j : Json) : Except Problem Route := record.decode Json.format "struct Route" j

end Route

/-! ## Routes to audit -/

/-- What stands for a route in the list of routes to audit. -/
inductive RouteInput where
  | name (name : String)
  | route (route : Route)
  deriving DecidableEq, Repr, Inhabited

/-- A text is a name and an object a route; nothing else stands for one. -/
def RouteInput.ofJson : Json → Except AuditError RouteInput
  | .string text => .ok (.name text)
  | .object members =>
    match Route.ofJson (.object members) with
    | .ok found => .ok (.route found)
    | .error problem => .error (.unsupportedRoute problem.message)
  | other =>
    .error (.unsupportedRoute
      ("expected a route name or route object, got " ++ backquoted other.compact))

end RouteAudit
