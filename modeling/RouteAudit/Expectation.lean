/-
  Expectation.lean --- assertions about routes, for the test suite of an application.

  WHAT THIS FILE IS FOR.  An assertion audits routes and fails with the names of those
  that fail the audit.  An expectation says which routes are not asserted at all, and
  what is said about a failure.
-/
import RouteAudit.Audit.Collection
import RouteAudit.Audit.Engine
import RouteAudit.Audit.Entry

set_option autoImplicit false

namespace RouteAudit

open RouteAudit.Discovery

/-- Which routes are asserted and how a failure is reported. -/
structure Expectation where
  /-- patterns of routes that are left out -/
  ignored : List String := []
  /-- what asserted routes have to satisfy -/
  conditions : List (Route → Bool) := []
  /-- the message for the names of the failed routes, in place of a list of them -/
  report : Option (List String → String) := none

namespace Expectation

/-! ## Building -/

/-- Leave out further routes. -/
def ignoring (e : Expectation) (patterns : List String) : Expectation :=
  { e with ignored := e.ignored ++ patterns }

/-- Assert only routes that also satisfy a condition. -/
def when (e : Expectation) (condition : Route → Bool) : Expectation :=
  { e with conditions := e.conditions ++ [condition] }

/-- Build the message from the names of the failed routes. -/
def withReport (e : Expectation) (report : List String → String) : Expectation :=
  { e with report := some report }

/-- Use a fixed message. -/
def withMessage (e : Expectation) (message : String) : Expectation :=
  e.withReport fun _ => message

/-! ## Checking -/

/-- A header and the names of routes, one a line. -/
def listing (header : String) (names : List String) : String :=
  names.foldl (fun text name => text ++ "\n\t" ++ name) header

/-- The routes that inputs stand for, as far as they satisfy the conditions. -/
def candidates (e : Expectation) (inputs : List RouteInput) : List Route :=
  (RouteTable.empty.resolveAll inputs).filter fun r => e.conditions.all (· r)

/-- The audited routes of an expectation. -/
def audited (e : Expectation) (inputs : List RouteInput) (auditors : List Auditor)
    (benchmark : Int) : List AuditedRoute :=
  let engine : Engine := { routes := e.candidates inputs, benchmark }
  (engine.ignoring e.ignored).run auditors

/-- Fail with the routes that fail the audit, if there are any. -/
def check (e : Expectation) (inputs : List RouteInput) (auditors : List Auditor)
    (benchmark : Int) (header : String) : Except AuditError Unit :=
  match (Collection.failed (e.audited inputs auditors benchmark)).map (·.displayName) with
  | [] => .ok ()
  | names => .error (.assertionFailed ((e.report.getD (listing header)) names) names)

/-! ## Assertions -/

/-- Every route reaches the benchmark. -/
def assertOk (e : Expectation) (inputs : List RouteInput) (auditors : List Auditor)
    (benchmark : Int) : Except AuditError Unit :=
  e.check inputs auditors benchmark "The following routes failed the audit:"

/-- Every route is covered at least so many times, by tests that are searched for. -/
def assertTested {m : Type → Type} [Monad m] (e : Expectation) (w : Workshop m)
    (inputs : List RouteInput) (times : Int) : Building m Unit := do
  let auditor : Auditor := { rule := ← w.rule "test_coverage" [], penalty := -1 }
  match e.check inputs [auditor] times
      "The following routes appear to be missing test coverage:" with
  | .ok () => return ()
  | .error failure => throw failure

/-- The route is covered at least so many times. -/
def assertRouteTested {m : Type → Type} [Monad m] (w : Workshop m) (input : RouteInput)
    (times : Int) (message : Option String) : Building m Unit :=
  let e : Expectation := {}
  (e.withMessage (message.getD "The route appears to be missing test coverage")).assertTested
    w [input] times

/-- Every route has one of the middleware. -/
def assertMiddleware (e : Expectation) (inputs : List RouteInput) (wanted : List String) :
    Except AuditError Unit :=
  let auditor : Auditor := { rule := .middleware (wanted.map Middleware.parse), penalty := -1 }
  e.check inputs [auditor] 0 "The following routes are missing the expected middleware:"

/-- The route has one of the middleware. -/
def assertRouteMiddleware (input : RouteInput) (wanted : List String)
    (message : Option String) : Except AuditError Unit :=
  let e : Expectation := {}
  (e.withMessage (message.getD "The route is missing the expected middleware")).assertMiddleware
    [input] wanted

end Expectation

end RouteAudit
