/-
  Audit/Entry.lean --- auditors from configuration entries.

  WHAT THIS FILE IS FOR.  An entry names the kind of an auditor and says what its counts
  are worth.  It is written in one of four ways: the kind with its weight, the weight
  with the kind, the kind with its settings, or the kind alone.  Entries stand in a
  mapping or, one by one, in a list.
-/
import RouteAudit.Audit.Auditor
import RouteAudit.Config
import RouteAudit.Discovery.Source
import RouteAudit.Yaml.Printer

set_option autoImplicit false

namespace RouteAudit

open RouteAudit.Decode RouteAudit.Discovery

/-! ## Settings -/

/-- The settings of an auditor. -/
structure AuditorEntry where
  weight : Int := 1
  penalty : Int := 0
  limit : Option Int := none
  name : Option String := none
  ignore : List String := []
  arguments : List Yaml := []
  deriving Inhabited

namespace AuditorEntry

/-- The fields of the settings. -/
def record : Record Yaml AuditorEntry :=
  let preset : AuditorEntry := {}
  AuditorEntry.mk
    <$> .optional "weight" preset.weight Yaml.format.int
    <*> .optional "penalty" preset.penalty Yaml.format.int
    <*> .optional "limit" preset.limit (Yaml.format.option Yaml.format.int)
    <*> .optional "name" preset.name (Yaml.format.option Yaml.format.string)
    <*> .optional "ignore" preset.ignore (Yaml.format.list Yaml.format.string)
    <*> .optional "arguments" preset.arguments (Yaml.format.list .ok)

/-- The settings that a value stands for; a field of another name is refused. -/
def ofYaml (y : Yaml) : Except Problem AuditorEntry :=
  record.decode Yaml.format "struct AuditorEntry" y .refused

/-- The auditor with a rule and these settings. -/
def auditor (entry : AuditorEntry) (rule : Rule) : Auditor where
  rule := rule
  customName := entry.name
  weight := entry.weight
  penalty := entry.penalty
  limit := entry.limit
  ignore := { overrides := entry.ignore }

end AuditorEntry

/-! ## Rules -/

/-- A kind as it is compared: without blanks around it, in lower case, with underscores
for hyphens. -/
def normalKind (kind : String) : String :=
  String.ofList ((Text.trimChars kind.toList).map fun c => if c = '-' then '_' else c.toLower)

/-- The middleware that an argument names. -/
def middlewareArgument : Yaml → Except AuditError Middleware
  | .string text => .ok (.parse text)
  | other =>
    .error (.invalidArgument "middleware" ("expected a middleware string, got " ++ other.shown))

/-- A rule that takes no arguments. -/
def withoutArguments (rule : Rule) (arguments : List Yaml) : Except AuditError Rule :=
  if arguments.isEmpty then .ok rule
  else
    .error (.invalidArgument rule.kind
      ("expected no arguments, got " ++ toString arguments.length))

/-- Where auditors are built: what their rules search for tests. -/
structure Workshop (m : Type → Type) where
  tests : TestSettings
  source : Source m

/-- Building, with what was found below directories so far. -/
abbrev Building (m : Type → Type) := ExceptT AuditError (StateT (Cache (List TestMethod)) m)

namespace Workshop

variable {m : Type → Type} [Monad m]

/-- The rule of a kind. -/
def rule (w : Workshop m) (kind : String) (arguments : List Yaml) : Building m Rule := do
  let plain (rule : Rule) : Building m Rule := liftExcept (withoutArguments rule arguments)
  match normalKind kind with
  | "middleware" => return .middleware (← liftExcept (arguments.mapM middlewareArgument))
  | "permission" => plain .permission
  | "policy" => plain .policy
  | "scoped_binding" => plain .scopedBinding
  | "test_coverage" | "phpunit" =>
    let methods ← discover w.tests w.source
    plain (.testCoverage { methods, vocabulary := w.tests.vocabulary })
  | _ => throw (.unknownAuditor kind)
where
  liftExcept {α : Type} : Except AuditError α → Building m α
    | .ok a => return a
    | .error e => throw e

/-! ## Entries -/

/-- The auditor of a kind with settings. -/
def ofEntry (w : Workshop m) (kind : String) (entry : AuditorEntry) : Building m Auditor := do
  return entry.auditor (← w.rule kind entry.arguments)

/-- The error for an entry that is in none of the four forms. -/
def misfit (key value : Yaml) : AuditError := .invalidAuditor key.text value.text

/-- The auditor of a kind with a weight. -/
def weighted (w : Workshop m) (kind : String) (weight : Int) (e : AuditError) :
    Building m Auditor :=
  if Word.fits weight then w.ofEntry kind { weight := weight } else throw e

/-- The auditor of one entry. -/
def ofPair (w : Workshop m) (key value : Yaml) : Building m Auditor :=
  match key, value with
  | .string kind, .int weight | .int weight, .string kind =>
    w.weighted kind weight (misfit key value)
  | .string kind, .null => w.ofEntry kind {}
  | .string kind, .map _ =>
    match AuditorEntry.ofYaml value with
    | .ok entry => w.ofEntry kind entry
    | .error problem => throw (.invalidAuditor kind problem.message)
  | _, _ => throw (misfit key value)

/-- The auditor of an item of a list: a kind alone, or a mapping of one entry. -/
def ofItem (w : Workshop m) (item : Yaml) : Building m Auditor :=
  match item with
  | .string _ => w.ofPair item .null
  | .map [(key, value)] => w.ofPair key value
  | other => throw (.invalidAuditor other.text "")

/-- The auditors of all entries, in their order. -/
def auditors (w : Workshop m) : Yaml → Building m (List Auditor)
  | .null => return []
  | .map entries => entries.mapM fun (key, value) => w.ofPair key value
  | .list items => items.mapM w.ofItem
  | other => throw (.invalidAuditor "auditors" other.text)

end Workshop

end RouteAudit
