/-
  Audit/Engine.lean --- auditing the routes of an application.

  WHAT THIS FILE IS FOR.  An engine holds the routes to audit, the benchmark, and the
  routes that are left out.  A run audits every route that is not left out, in order.
-/
import RouteAudit.Audit.Audited
import RouteAudit.Config
import RouteAudit.Route.Table

set_option autoImplicit false

namespace RouteAudit

open RouteAudit.Ignore

/-- The routes to audit and what they are measured by. -/
structure Engine where
  routes : List Route
  benchmark : Int := 0
  ignore : Matcher := {}
  deriving Inhabited

namespace Engine

/-- The engine for inputs, with names looked up in a table. -/
def ofTable (table : RouteTable) (inputs : List RouteInput) : Engine :=
  { routes := table.resolveAll inputs }

/-- The engine for inputs, with the benchmark and the ignored routes of a configuration. -/
def ofConfig (config : Config) (table : RouteTable) (inputs : List RouteInput) : Engine :=
  { ofTable table inputs with
    benchmark := config.benchmark
    ignore := { defaults := config.ignoredRoutes } }

/-- Set the benchmark. -/
def withBenchmark (e : Engine) (benchmark : Int) : Engine := { e with benchmark := benchmark }

/-- Let patterns take the place of those of the last call. -/
def ignoring (e : Engine) (patterns : List String) : Engine :=
  { e with ignore := e.ignore.withOverrides patterns }

/-- The audited routes. -/
def run (e : Engine) (auditors : List Auditor) : List AuditedRoute :=
  (e.routes.filter e.ignore.validates).map fun route =>
    ({ route, benchmark := e.benchmark } : AuditedRoute).audit auditors

end Engine

end RouteAudit
