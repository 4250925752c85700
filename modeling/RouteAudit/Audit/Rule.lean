/-
  Audit/Rule.lean --- what can be counted at a route.

  WHAT THIS FILE IS FOR.  A rule counts something at a route: middleware, permissions,
  policies, the tests that act on it.  What the count is worth is the auditor's business.
-/
import RouteAudit.Coverage.Table
import RouteAudit.Route.Basic

set_option autoImplicit false

namespace RouteAudit

/-- Something that is counted at a route. -/
structure Rule where
  /-- the word for it in configurations and reports -/
  kind : String
  count : Route → Int

namespace Rule

/-! ## Middleware -/

/-- The middleware of a route that implements one of several. -/
def implementing (wanted : List Middleware) (r : Route) : List Middleware :=
  r.middleware.filter (·.implementsAny wanted)

/-- Counts the middleware that implements one of the required. -/
def middleware (required : List Middleware) : Rule where
  kind := "middleware"
  count r := (implementing required r).length

/-- The numbers of attributes that authorizations of a route have. -/
def authorizations (r : Route) : List Nat :=
  (implementing [Middleware.authorize] r).map (·.attributes.length)

/-- Counts authorizations by an ability alone. -/
def permission : Rule where
  kind := "permission"
  count r := (authorizations r).countP (· = 1)

/-- Counts authorizations by an ability and a model. -/
def policy : Rule where
  kind := "policy"
  count r := (authorizations r).countP (1 < ·)

/-! ## Scoped bindings -/

/-- What follows the first closing brace, if it comes before the end of the line. -/
def afterBrace? : List Char → Option (List Char)
  | [] => none
  | c :: rest =>
    if c = '\x7d' then some rest else if c = '\n' then none else afterBrace? rest

theorem length_of_afterBrace? {cs rest : List Char} (h : afterBrace? cs = some rest) :
    rest.length < cs.length := by
  induction cs with
  | nil => simp [afterBrace?] at h
  | cons c more ih =>
    simp only [afterBrace?] at h
    split at h
    · simp_all
    · split at h
      · simp at h
      · exact Nat.lt_succ_of_lt (ih h)

/-- The number of segments in braces, each from the first open brace to the next closing
one on its line. -/
def countParameters : List Char → Nat
  | [] => 0
  | c :: rest =>
    if c = '\x7b' then
      match h : afterBrace? rest with
      | some more => 1 + countParameters more
      | none => countParameters rest
    else countParameters rest
termination_by cs => cs.length
decreasing_by
  all_goals simp only [List.length_cons]
  · have := length_of_afterBrace? h
    omega
  all_goals omega

/-- The number of parameters in an address. -/
def parameters (uri : String) : Nat := countParameters uri.toList

/-- Rates the binding of nested routes: enforced counts twice, a nested route without it
counts nothing, all else counts once. -/
def scopedBinding : Rule where
  kind := "scoped_binding"
  count r :=
    match r.scopedBindings with
    | .enforced => 2
    | .unknown => 1
    | .notEnforced => if 1 < parameters r.uri then 0 else 1

/-! ## Tests -/

/-- Counts how often tests cover the route. -/
def testCoverage (table : Coverage.Table) : Rule :=
  let occurrences := table.occurrences.1
  { kind := "test_coverage"
    count := fun r => occurrences.count r.identifier }

end Rule

end RouteAudit
