/-
  Coverage/Vocabulary.lean --- the words by which a test names a route.

  WHAT THIS FILE IS FOR.  Which calls act on a route, which function turns a route
  name into an address and which attribute declares coverage is a matter of
  configuration.  The recognizers below say what each word does at a node.
-/
import RouteAudit.Syntax.Name
import RouteAudit.Syntax.Search

set_option autoImplicit false

namespace RouteAudit.Coverage

open RouteAudit.Syntax

/-- The names that are recognized in tests. -/
structure Vocabulary where
  /-- calls whose first argument is a route -/
  actingMethods : List String :=
    ["get", "getJson", "post", "postJson", "put", "putJson", "patch", "patchJson", "delete",
      "deleteJson", "call", "json"]
  /-- the function that turns a route name into an address -/
  routeFunction : String := "route"
  /-- the short name of the attribute that declares coverage -/
  marker : String := "CoversRoute"
  deriving DecidableEq, Repr, Inhabited

namespace Vocabulary

/-- Whether a node is named like the route function, whatever its namespace. -/
def isRouteCall (v : Vocabulary) (t : Node) : Bool :=
  t.name?.map shortName == some v.routeFunction

/-- Whether a node is an attribute that declares coverage. -/
def isMarker (v : Vocabulary) (t : Node) : Bool :=
  t.category == .marker && t.name?.map shortName == some v.marker

/-- The routes that the attributes directly on a class or method declare, in order. -/
def declaredRoutes (v : Vocabulary) (owner : Node) : List String :=
  (owner.children.filter v.isMarker).flatMap fun marker =>
    (marker.filter (.of .stringLiteral) .outermost).filterMap Node.name?

end Vocabulary

end RouteAudit.Coverage
