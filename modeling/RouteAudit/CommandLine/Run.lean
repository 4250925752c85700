/-
  CommandLine/Run.lean --- a run of the command line.

  WHAT THIS FILE IS FOR.  A run reads the configuration and the routes, builds the
  auditors, shows its findings and writes a report if that is asked for.  It is a
  program over the requests to a file system, so that it can run on a real one and on
  one that is held in memory.
-/
import RouteAudit.Audit.Entry
import RouteAudit.CommandLine.Findings
import RouteAudit.Yaml.Reader

set_option autoImplicit false

namespace RouteAudit.CommandLine

open RouteAudit.Files RouteAudit.Discovery

/-! ## Outcomes -/

/-- What went wrong, from the outside in. -/
abbrev Trouble := List String

/-- How a run ends. -/
structure Outcome where
  /-- what is printed, line by line -/
  lines : List String := []
  /-- the status for the caller -/
  exitCode : Nat := 0
  trouble : Option Trouble := none
  deriving DecidableEq, Repr, Inhabited

namespace Outcome

/-- What is printed. -/
def output (o : Outcome) : String := String.join (o.lines.map (· ++ "\n"))

/-- What is said about the trouble. -/
def errorLine? (o : Outcome) : Option String :=
  o.trouble.map fun reasons => "error: " ++ ": ".intercalate reasons

/-- A run that ends with trouble after it printed some lines. -/
def failed (lines : List String) (trouble : Trouble) : Outcome :=
  { lines, exitCode := 2, trouble := some trouble }

end Outcome

/-- An error and what it says once more about its cause. -/
def reasons (e : AuditError) : Trouble := e.message :: e.causes

/-! ## Reading -/

variable {m : Type → Type} [Monad m]

/-- The directory that the paths of a configuration start at: that of its file, or the
working directory. -/
def rootOf (disk : Disk m) (file : Path) : m Path :=
  match file.parent? with
  | some directory => if directory.text.isEmpty then disk.workingDirectory else return directory
  | none => disk.workingDirectory

/-- The configuration of a text. -/
def configOf (file : Path) (text : String) : Except Trouble Config :=
  match Yaml.parse text with
  | .error reason => .error ["Failed to parse YAML " ++ file.text, reason]
  | .ok value =>
    match Config.ofYaml value with
    | .error problem => .error ["Invalid config structure in " ++ file.text, problem.message]
    | .ok config => .ok config

/-- The configuration of a file and the directory that its paths start at; without the
file the default configuration. -/
def loadConfig (disk : Disk m) (file : Path) : ExceptT Trouble m (Config × Path) := ExceptT.mk do
  if ← disk.isThere file then
    match ← disk.read file with
    | .error fault => return .error ["Failed to read config " ++ file.text, fault.message]
    | .ok text =>
      match configOf file text with
      | .error trouble => return .error trouble
      | .ok config => return .ok (config, ← rootOf disk file)
  else return .ok ({}, ← disk.workingDirectory)

/-- The configuration with a directory for tests that starts at the given one. -/
def rooted (config : Config) (root : Path) : Config :=
  { config with tests := { config.tests with directory := config.tests.directory.map root.join } }

/-- The routes of a file; without a file there are none. -/
def loadRoutes (disk : Disk m) : Option Path → ExceptT Trouble m RouteTable
  | none => return .empty
  | some file => ExceptT.mk do
    match ← disk.read file with
    | .error fault => return .error ["Failed to read routes " ++ file.text, fault.message]
    | .ok text =>
      match RouteTable.parse text with
      | .error e => return .error (("Invalid routes in " ++ file.text) :: reasons e)
      | .ok table => return .ok table

/-- The auditors of a configuration. -/
def loadAuditors (disk : Disk m) (config : Config) (parse : Parser := Php.parse) :
    ExceptT Trouble m (List Auditor) :=
  ExceptT.mk do
    let workshop : Workshop m := { tests := config.tests, source := .ofDisk disk parse }
    match ← ((workshop.auditors config.auditors).run .empty) with
    | (.ok auditors, _) => return .ok auditors
    | (.error e, _) => return .error ("Invalid auditors configuration" :: reasons e)

/-! ## Running -/

/-- What a run has to know to show its findings. -/
structure Loaded where
  config : Config
  /-- the directory that the paths of the configuration start at -/
  root : Path
  findings : Findings
  deriving Inhabited

/-- Whether there is nothing to audit: no route is known and none is named. -/
def isIdle (table : RouteTable) (a : Arguments) : Bool :=
  table.isEmpty && a.routeNames.all (· == "*")

/-- Read everything and audit. -/
def load (disk : Disk m) (a : Arguments) (parse : Parser := Php.parse) :
    ExceptT Trouble m Loaded := do
  let (config, root) ← loadConfig disk a.configFile
  let config := rooted config root
  let table ← loadRoutes disk a.routes
  if isIdle table a then throw ["No routes to audit: pass --routes FILE or route names"]
  let auditors ← loadAuditors disk config parse
  return { config, root, findings := .make config table auditors a }

/-- The directory and the name of the file that a report is written to. -/
def target (l : Loaded) : Option Path → Path × String
  | none => (l.root.join l.config.output.directory, l.config.output.fileName)
  | some file =>
    let directory := (file.parent?.filter fun d => !d.text.isEmpty).getD ⟨"."⟩
    (directory, file.fileName?.getD l.config.output.fileName)

/-- Write a report. -/
def writeReport (disk : Disk m) (l : Loaded) (file : Option Path) : ExceptT Trouble m Path :=
  ExceptT.mk do
    let (directory, name) := target l file
    match ← (l.findings.report.write disk directory name).run with
    | .ok path => return .ok path
    | .error e =>
      return .error (("Failed to export report to " ++ directory.text) :: reasons e)

/-- Show the findings, and write a report if that is asked for. -/
def finish (disk : Disk m) (a : Arguments) (l : Loaded) : m Outcome := do
  let lines := l.findings.lines a
  let exitCode := l.findings.exitCode
  match a.exportTo with
  | none => return { lines, exitCode }
  | some file =>
    match ← (writeReport disk l file).run with
    | .error trouble => return .failed lines trouble
    | .ok path =>
      if a.json || a.quiet then return { lines, exitCode }
      else return { lines := lines ++ ["", "Report exported to " ++ path.text], exitCode }

/-- How a run is called. -/
def usage : List String :=
  ["Score application routes against configured auditors.", "",
    "Usage: audit-routes [OPTIONS] [ROUTE]...", "",
    "  --config <CONFIG>     configuration file (default: audit-routes.yml)",
    "  --routes <FILE>       JSON file of the application routes",
    "  --benchmark <N>       least score of a route that passes",
    "  --ignore <PAT[,PAT]>  patterns of routes to skip",
    "  --json                print the report instead of the table",
    "  --export [<FILE>]     write the report to a file",
    "  --quiet               print nothing",
    "  -v, --verbose         log more",
    "  -h, --help            print this"]

/-- Run with the words of a command line. -/
def run (disk : Disk m) (words : List String) (parse : Parser := Php.parse) : m Outcome := do
  match Arguments.parse words with
  | .error fault => return .failed [] [fault.message]
  | .ok a =>
    if a.help then return { lines := usage }
    match ← (load disk a parse).run with
    | .error trouble => return .failed [] trouble
    | .ok loaded => finish disk a loaded

end RouteAudit.CommandLine
