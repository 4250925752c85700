/-
  Error.lean --- the ways in which an audit can fail.

  WHAT THIS FILE IS FOR.  Configuration, routes and reports are checked before anything
  is scored; what does not fit ends the audit with one of the causes below.  A test file
  that cannot be parsed is no failure: it is left out.
-/
import RouteAudit.Files.Disk

set_option autoImplicit false

namespace RouteAudit

/-- Why an audit fails. -/
inductive AuditError where
  /-- an entry of the configuration that describes no auditor -/
  | invalidAuditor (key value : String)
  | unknownAuditor (kind : String)
  /-- arguments that an auditor does not take -/
  | invalidArgument (auditor reason : String)
  | unsupportedField (field : String)
  | unsupportedRoute (reason : String)
  /-- a text that is no JSON, or not of the expected shape -/
  | json (reason : String)
  | missingConfig (key : String)
  /-- a file that cannot be read or written -/
  | file (path : Path) (fault : Files.Fault)
  /-- a directory that cannot be listed -/
  | listing (path : Path) (fault : Files.Fault)
  /-- routes that an assertion does not hold for -/
  | assertionFailed (message : String) (routes : List String)
  deriving DecidableEq, Repr, Inhabited

namespace AuditError

/-- The error in words. -/
def message : AuditError → String
  | .invalidAuditor key value =>
    "could not instantiate auditor from \x60" ++ key ++ "\x60 => \x60" ++ value ++ "\x60"
  | .unknownAuditor kind => "unknown auditor kind \x60" ++ kind ++ "\x60"
  | .invalidArgument auditor reason =>
    "invalid argument for the " ++ auditor ++ " auditor: " ++ reason
  | .unsupportedField field => "unsupported field name: " ++ field
  | .unsupportedRoute reason => "unsupported route: " ++ reason
  | .json reason => "invalid JSON: " ++ reason
  | .missingConfig key => "missing configuration value \x60" ++ key ++ "\x60"
  | .file path fault => "I/O error on " ++ path.text ++ ": " ++ fault.message
  | .listing path fault => "IO error for operation on " ++ path.text ++ ": " ++ fault.message
  | .assertionFailed message _ => message

/-- What an error says once more when its causes are listed behind it. -/
def causes : AuditError → List String
  | .json reason => [reason]
  | .file _ fault => [fault.message]
  | .listing _ fault => [fault.message]
  | _ => []

end AuditError

end RouteAudit
