/-
  Proofs/CommandLine/Findings.lean --- table, statistics, report and status of a run agree.

  WHAT THIS FILE IS FOR.  Whether a route failed is said in four places: by the status that
  a run ends with, by a statistic, by the marks of the table and by the routes of the
  report.  Each of them is found in its own way from the audited routes.  They say the same,
  whatever the configuration and the arguments.

  HOW IT GOES.  All audited routes are measured by the one benchmark in force.  Table and
  report hold them in two orders, so they count alike.

  Main statement: `agree_make`.
-/
import RouteAudit.CommandLine.Findings
import RouteAudit.Proofs.Audit.Collection
import RouteAudit.Proofs.Audit.Run
import RouteAudit.Proofs.Statistic.Count
import RouteAudit.Proofs.Statistic.Defaults

set_option autoImplicit false

namespace RouteAudit

/-! ## What reports say -/

/-- Whether the object for a route says that the route failed. -/
def Json.saysFailed : Json → Bool
  | .object members =>
    match members.lookup "failed" with
    | some (.bool b) => b
    | _ => false
  | _ => false

theorem AuditedRoute.saysFailed_toJson (r : AuditedRoute) : r.toJson.saysFailed = r.hasFailed := by
  simp [toJson, Json.saysFailed, List.lookup]

theorem AuditedRoute.hasFailed_iff (r : AuditedRoute) :
    r.hasFailed = true ↔ r.score < r.benchmark := by
  rw [hasFailed, decide_eq_true_iff, status_eq_failed_iff]

/-- The figure of a name among the statistics of a report. -/
def Export.figure? (e : Export) (name : String) : Option Float :=
  e.statistics.findSome? fun
    | .figure _ other value => if other = name then some value else none
    | .group _ _ _ => none

/-- How many of its routes a report says failed. -/
def Export.failures (e : Export) : Nat := e.routes.countP (·.toJson.saysFailed)

theorem Export.routes_make_perm (statistics : List (Statistic Float)) (routes : List AuditedRoute) :
    (Export.make statistics routes).routes.Perm routes :=
  Collection.sort_perm _ routes

namespace Export

variable (routes : List AuditedRoute)

theorem figure?_total : (make Statistic.defaults routes).figure? "Total routes" =
    some (number (make Statistic.defaults routes).routes.length) := by
  have hlength := (routes_make_perm Statistic.defaults routes).length_eq
  rw [figure?, hlength, make, Overview.reports_defaults]
  simp [Overview.reports, Overview.ofRoutes, Measure.aggregate_count, Measure.result]

theorem figure?_failed : (make Statistic.defaults routes).figure? "Failed routes" =
    some (number (make Statistic.defaults routes).failures) := by
  have hcount := (routes_make_perm Statistic.defaults routes).countP_eq (·.hasFailed)
  simp only [failures, AuditedRoute.saysFailed_toJson, hcount]
  rw [figure?, make, Overview.reports_defaults]
  simp [Overview.reports, Overview.ofRoutes, Measure.aggregate_countOf, Measure.result]

end Export

/-! ## Findings -/

namespace CommandLine.Findings

variable {f : Findings}

/-- The line of the table for a route. -/
def rowLine (f : Findings) (r : AuditedRoute) : String :=
  "  " ++ mark r ++ " " ++ fill f.nameWidth r.displayName ++ "  " ++ toString r.score

/-- What the findings say about failed routes, and about the number and the order of the
routes, is the same throughout. -/
structure Agree (f : Findings) : Prop where
  /-- the status is one if and only if the report says of some route that it failed -/
  exitCode_eq : f.exitCode = if f.report.routes.any (·.toJson.saysFailed) then 1 else 0
  /-- it is one if and only if the statistic of the failed routes is positive -/
  exitCode_eq_one_iff :
    f.exitCode = 1 ↔ ∃ x, f.report.figure? "Failed routes" = some x ∧ (0 : Float) < x
  /-- that statistic counts the routes of which the report says that they failed -/
  figure_failed : f.report.figure? "Failed routes" = some (number f.report.failures)
  /-- these are the routes with a score below the benchmark -/
  saysFailed_iff : ∀ r ∈ f.report.routes, r.toJson.saysFailed = true ↔ r.score < f.benchmark
  failures_eq : f.report.failures = f.report.routes.countP (·.score < f.benchmark)
  figure_total : f.report.figure? "Total routes" = some (number f.report.routes.length)
  /-- the table has a line for each row below its title -/
  tableLines_eq : f.tableLines =
    ("Routes (benchmark " ++ toString f.benchmark ++ "):") :: f.rows.map f.rowLine
  rows_perm : f.rows.Perm f.report.routes
  rows_sorted : f.rows.Pairwise fun a b =>
    b.score ≤ a.score ∧ (a.score = b.score → a.displayName ≤ b.displayName)
  routes_sorted : f.report.routes.Pairwise fun a b =>
    a.score ≤ b.score ∧ (a.score = b.score → a.displayName ≤ b.displayName)

theorem exitCode_eq_ite (f : Findings) :
    f.exitCode = if f.audited.any (·.hasFailed) then 1 else 0 := by
  have hempty : (Collection.failed f.audited).isEmpty = !f.audited.any (·.hasFailed) := by
    rw [Bool.eq_iff_iff, List.isEmpty_iff, Collection.failed, Collection.withStatus,
      List.filter_eq_nil_iff, Bool.not_eq_true', List.any_eq_false]
    rfl
  rw [exitCode, hempty]
  cases f.audited.any (·.hasFailed) <;> rfl

/-- Findings agree if their report is the one about the audited routes, with the default
statistics, and all routes were measured by the benchmark. -/
theorem agree_of_benchmark (hreport : f.report = .make Statistic.defaults f.audited)
    (hbenchmark : ∀ r ∈ f.audited, r.benchmark = f.benchmark) : f.Agree := by
  have hperm : f.report.routes.Perm f.audited := by
    rw [hreport]
    exact Export.routes_make_perm _ _
  have hexit : f.exitCode = if f.report.routes.any (·.toJson.saysFailed) then 1 else 0 := by
    simp only [AuditedRoute.saysFailed_toJson, exitCode_eq_ite, hperm.any_eq]
  have hfailed : f.report.figure? "Failed routes" = some (number f.report.failures) := by
    rw [hreport]
    exact Export.figure?_failed f.audited
  have hpositive : 0 < f.report.failures ↔ f.report.routes.any (·.toJson.saysFailed) = true := by
    rw [Export.failures, List.countP_pos_iff, List.any_eq_true]
  have hbelow : ∀ r ∈ f.report.routes, r.toJson.saysFailed = true ↔ r.score < f.benchmark := by
    intro r hr
    rw [AuditedRoute.saysFailed_toJson, AuditedRoute.hasFailed_iff,
      hbenchmark r (hperm.mem_iff.1 hr)]
  exact {
    exitCode_eq := hexit
    exitCode_eq_one_iff := by
      rw [hfailed, hexit]
      simp [Count.number_pos_iff, hpositive]
    figure_failed := hfailed
    saysFailed_iff := hbelow
    failures_eq := List.countP_congr fun r hr => (hbelow r hr).trans decide_eq_true_iff.symm
    figure_total := by
      rw [hreport]
      exact Export.figure?_total f.audited
    tableLines_eq := rfl
    rows_perm := (Collection.sort_perm _ f.audited).trans hperm.symm
    rows_sorted := (Collection.pairwise_sort .descending f.audited).imp fun h =>
      ⟨of_decide_eq_true h.1, h.2⟩
    routes_sorted := by
      rw [hreport]
      exact (Collection.pairwise_sort .ascending f.audited).imp fun h =>
        ⟨of_decide_eq_true h.1, h.2⟩ }

/-- The findings about any routes agree, whatever the configuration, the auditors and the
arguments. -/
theorem agree_make (config : Config) (table : RouteTable) (auditors : List Auditor)
    (a : Arguments) : (make config table auditors a).Agree := by
  refine agree_of_benchmark rfl fun r hr => ?_
  obtain ⟨route, -, rfl⟩ := List.mem_map.1 hr
  rfl

end CommandLine.Findings

end RouteAudit
