/-
  Audit/Audited.lean --- audited routes.

  WHAT THIS FILE IS FOR.  The score of a route is the sum of what its auditors give.  It
  fails if that is below the benchmark.  A report holds the name of a route and not the
  route; read back, the route is one of which only the name is known, and the status
  follows from score and benchmark again.
-/
import RouteAudit.Audit.Auditor

set_option autoImplicit false

namespace RouteAudit

open RouteAudit.Decode

/-! ## Status -/

/-- Whether a route passes. -/
inductive Status where
  | failed
  | ok
  deriving DecidableEq, Repr, Inhabited

namespace Status

/-- The word for a status. -/
def text : Status → String
  | .failed => "failed"
  | .ok => "ok"

/-- The status of a word. -/
def ofText? : String → Option Status
  | "failed" => some .failed
  | "ok" => some .ok
  | _ => none

@[simp] theorem ofText?_text (s : Status) : ofText? s.text = some s := by cases s <;> rfl

/-- The status of a word, which may also be the only key of an object, with no value. -/
def ofJson : Json → Except Problem Status
  | .string word => ofWord word
  | .object [(word, value)] => do
    let status ← ofWord word
    if Json.format.isNull value then return status else value.unlike "unit"
  | .object _ => .error (.value "map" "map with a single key")
  | j => j.unlike "string or map"
where
  ofWord (word : String) : Except Problem Status :=
    match ofText? word with
    | some status => .ok status
    | none => .error (.unknownVariant word ["failed", "ok"])

end Status

/-! ## Results -/

/-- What an auditor gave a route: nothing, if it does not apply to it. -/
structure AuditorResult where
  auditor : AuditorSummary
  result : Option Int
  deriving DecidableEq, Repr, Inhabited

namespace AuditorResult

/-- The object that says all of a result. -/
def toJson (r : AuditorResult) : Json :=
  .object [("auditor", r.auditor.toJson), ("result", .ofOption .int r.result)]

/-- The fields of a result. -/
def record : Record Json AuditorResult :=
  AuditorResult.mk
    <$> .required "auditor" AuditorSummary.ofJson
    <*> .optional "result" none (Json.format.option Json.format.int)

/-- The result that a value stands for. -/
def ofJson (j : Json) : Except Problem AuditorResult :=
  record.decode Json.format "struct AuditorResult" j

end AuditorResult

/-! ## Audited routes -/

/-- A route with the outcome of its audit. -/
structure AuditedRoute where
  route : Route
  /-- the least score that passes -/
  benchmark : Int
  score : Int := 0
  results : List AuditorResult := []
  deriving DecidableEq, Repr, Inhabited

namespace AuditedRoute

/-- The outcome of auditors, in place of any earlier one.  A score has the range of `Word`; the
results are added up without it here, which gives the score as long as no sum on the way leaves
that range.  A sum that does stops the audit or wraps around, and that is not modelled. -/
def audit (a : AuditedRoute) (auditors : List Auditor) : AuditedRoute :=
  let results := auditors.map fun auditor => ⟨auditor.summary, auditor.run a.route⟩
  { a with results, score := results.foldr (fun r sum => r.result.getD 0 + sum) 0 }

/-- The name that reports show. -/
def displayName (a : AuditedRoute) : String := a.route.identifier

/-- A route fails if its score is below the benchmark. -/
def status (a : AuditedRoute) : Status := if a.score < a.benchmark then .failed else .ok

/-- Whether a route fails. -/
def hasFailed (a : AuditedRoute) : Bool := a.status = .failed

/-- The object that reports show. -/
def toJson (a : AuditedRoute) : Json :=
  .object [("name", .string a.displayName), ("score", .int a.score),
    ("status", .string a.status.text), ("failed", .bool a.hasFailed),
    ("benchmark", .int a.benchmark), ("auditors", .ofList AuditorResult.toJson a.results)]

/-- The fields of a reported route.  Status and failure are read and follow anew from the
score. -/
def record : Record Json AuditedRoute :=
  (fun name score (_ : Status) (_ : Bool) benchmark results =>
    { route := .stringable name, benchmark, score, results })
    <$> .required "name" Json.format.string
    <*> .required "score" Json.format.int
    <*> .required "status" Status.ofJson
    <*> .required "failed" Json.format.bool
    <*> .required "benchmark" Json.format.int
    <*> .required "auditors" (Json.format.list AuditorResult.ofJson)

/-- The reported route that a value stands for. -/
def ofJson (j : Json) : Except Problem AuditedRoute :=
  record.decode Json.format "struct RouteReport" j

end AuditedRoute

end RouteAudit
