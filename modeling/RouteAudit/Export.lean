/-
  Export.lean --- reports that are written and read back.

  WHAT THIS FILE IS FOR.  A report holds statistics and audited routes, those with the
  lowest scores first.  The statistics are computed on the routes as they were audited.
-/
import RouteAudit.Audit.Collection
import RouteAudit.Error
import RouteAudit.Statistic.Basic

set_option autoImplicit false

namespace RouteAudit

open RouteAudit.Decode RouteAudit.Files

/-- A report about audited routes. -/
structure Export where
  statistics : List (Report Float)
  routes : List AuditedRoute
  deriving Inhabited

namespace Export

/-- The report that statistics give about routes. -/
def make (statistics : List (Statistic Float)) (routes : List AuditedRoute) : Export where
  statistics := Statistic.reports statistics routes
  routes := Collection.sort .ascending routes

/-! ## The JSON form -/

/-- The object that says all of a report. -/
def toJson (e : Export) : Json :=
  .object [("aggregates", .ofList Report.toJson e.statistics),
    ("routes", .ofList AuditedRoute.toJson e.routes)]

/-- The text of a report. -/
def text (e : Export) : String := e.toJson.pretty

/-- The fields of a report. -/
def record : Record Json Export :=
  Export.mk
    <$> .required "aggregates" (Json.format.list Report.ofJson)
    <*> .required "routes" (Json.format.list AuditedRoute.ofJson)

/-- The report that a value stands for. -/
def ofJson (j : Json) : Except Problem Export :=
  record.decode Json.format "struct ExportResult" j

/-- The report that a text stands for.  A member that occurs twice is an error. -/
def parse (text : String) : Except AuditError Export :=
  match Json.parse text with
  | .error reason => .error (.json reason)
  | .ok j => (ofJson j).mapError fun problem => .json problem.message

/-! ## Writing -/

/-- Write a report into a directory, which is made if it is not there; the answer is the
path of the file. -/
def write {m : Type → Type} [Monad m] (disk : Disk m) (directory : Path) (name : String)
    (e : Export) : ExceptT AuditError m Path := ExceptT.mk do
  match ← disk.makeDirectories directory with
  | .error fault => return .error (.file directory fault)
  | .ok () =>
    let path := directory.join ⟨name⟩
    match ← disk.write path e.text with
    | .error fault => return .error (.file path fault)
    | .ok () => return .ok path

end Export

end RouteAudit
