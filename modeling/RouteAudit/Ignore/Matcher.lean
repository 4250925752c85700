/-
  Ignore/Matcher.lean --- which routes are left out.

  WHAT THIS FILE IS FOR.  Some patterns are configured and stay, others belong to one
  call and replace those of the call before.  A route without an identifier is always
  left out.
-/
import RouteAudit.Ignore.Pattern
import RouteAudit.Route.Basic

set_option autoImplicit false

namespace RouteAudit.Ignore

/-- Patterns of routes that are left out. -/
structure Matcher where
  /-- those that stay -/
  defaults : List String := []
  /-- those of the last call -/
  overrides : List String := []
  deriving DecidableEq, Repr, Inhabited

namespace Matcher

/-- All patterns, those that stay first. -/
def patterns (m : Matcher) : List String := m.defaults ++ m.overrides

/-- Replace the patterns that stay. -/
def withDefaults (m : Matcher) (patterns : List String) : Matcher := { m with defaults := patterns }

/-- Replace the patterns of the last call. -/
def withOverrides (m : Matcher) (patterns : List String) : Matcher :=
  { m with overrides := patterns }

/-- Whether some pattern matches an identifier. -/
def isIgnored (m : Matcher) (identifier : String) : Bool :=
  m.patterns.any (isMatch · identifier)

/-- Whether a route is not left out. -/
def validates (m : Matcher) (r : Route) : Bool :=
  !r.identifier.isEmpty && !m.isIgnored r.identifier

end Matcher

end RouteAudit.Ignore
