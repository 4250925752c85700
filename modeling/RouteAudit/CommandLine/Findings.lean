/-
  CommandLine/Findings.lean --- what a run finds and how it is shown.

  WHAT THIS FILE IS FOR.  A run audits routes and reports on them: as a table with the
  best routes first and the default statistics below it, or as the text of the report.
  The run succeeds if no route fails.
-/
import RouteAudit.Audit.Engine
import RouteAudit.CommandLine.Arguments
import RouteAudit.Export

set_option autoImplicit false

namespace RouteAudit.CommandLine

open RouteAudit.Files

/-- What a run finds. -/
structure Findings where
  /-- the benchmark in force -/
  benchmark : Int
  audited : List AuditedRoute
  report : Export
  deriving Inhabited

namespace Findings

/-- The findings about the routes of a table that are asked for. -/
def make (config : Config) (table : RouteTable) (auditors : List Auditor) (a : Arguments) :
    Findings :=
  let benchmark := a.benchmark.getD config.benchmark
  let inputs := a.routeNames.map RouteInput.name
  let engine := Engine.ofConfig { config with benchmark } table inputs
  let audited := (engine.ignoring a.ignore).run auditors
  { benchmark, audited, report := .make Statistic.defaults audited }

/-- The status that a run ends with: one if some route failed. -/
def exitCode (f : Findings) : Nat := if (Collection.failed f.audited).isEmpty then 0 else 1

/-! ## Showing -/

/-- A text filled with blanks up to a number of characters. -/
def fill (width : Nat) (s : String) : String :=
  s ++ String.ofList (List.replicate (width - s.length) ' ')

/-- The mark of a status. -/
def mark (r : AuditedRoute) : String := if r.hasFailed then "✖" else "✓"

/-- The routes of the table, the best ones first. -/
def rows (f : Findings) : List AuditedRoute := Collection.sort .descending f.audited

/-- The width of the column of names, which is that of the longest name in bytes. -/
def nameWidth (f : Findings) : Nat :=
  (f.rows.map (·.displayName.utf8ByteSize)).foldl max 0

/-- The lines of the table. -/
def tableLines (f : Findings) : List String :=
  ("Routes (benchmark " ++ toString f.benchmark ++ "):") ::
    f.rows.map fun r =>
      "  " ++ mark r ++ " " ++ fill f.nameWidth r.displayName ++ "  " ++ toString r.score

/-- The lines of the statistics. -/
def summaryLines (f : Findings) : List String :=
  "Summary:" :: f.report.statistics.map fun s => "  " ++ s.name ++ ": " ++ s.display

/-- What is printed before anything is exported. -/
def lines (f : Findings) (a : Arguments) : List String :=
  if a.json then [f.report.text]
  else if a.quiet then []
  else f.tableLines ++ [""] ++ f.summaryLines

end Findings

end RouteAudit.CommandLine
