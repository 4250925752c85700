/-
  Audit/Auditor.lean --- rules with a weight.

  WHAT THIS FILE IS FOR.  An auditor turns the count of its rule into a score: the
  penalty for none, otherwise count times weight, up to the limit.  A route that is
  ignored or that a condition rejects has no score at all, which is not a score of zero.
-/
import RouteAudit.Audit.Rule
import RouteAudit.Ignore.Matcher
import RouteAudit.Word

set_option autoImplicit false

namespace RouteAudit

open RouteAudit.Decode RouteAudit.Ignore

/-- A rule, what its counts are worth, and the routes it does not apply to. -/
structure Auditor where
  rule : Rule
  /-- a name of its own, in place of the kind of its rule -/
  customName : Option String := none
  weight : Int := 1
  penalty : Int := 0
  limit : Option Int := none
  ignore : Matcher := {}
  conditions : List (Route → Bool) := []

/-- What a report says about an auditor. -/
structure AuditorSummary where
  name : String
  weight : Int
  penalty : Int
  limit : Option Int
  deriving DecidableEq, Repr, Inhabited

namespace Auditor

/-- The name of its own, or the kind of its rule. -/
def name (a : Auditor) : String := a.customName.getD a.rule.kind

/-- Let patterns take the place of those of the last call. -/
def ignoring (a : Auditor) (patterns : List String) : Auditor :=
  { a with ignore := a.ignore.withOverrides patterns }

/-- Add a condition that routes have to satisfy. -/
def when (a : Auditor) (condition : Route → Bool) : Auditor :=
  { a with conditions := a.conditions ++ [condition] }

/-- Whether an auditor applies to a route. -/
def appliesTo (a : Auditor) (r : Route) : Bool :=
  a.ignore.validates r && a.conditions.all (· r)

/-- The score of a count. -/
def score (a : Auditor) (count : Int) : Int :=
  if count = 0 then a.penalty
  else
    let weighted := Word.clamp (count * a.weight)
    match a.limit with
    | some limit => min weighted limit
    | none => weighted

/-- The score of a route, if the auditor applies to it. -/
def run (a : Auditor) (r : Route) : Option Int :=
  if a.appliesTo r then some (a.score (a.rule.count r)) else none

/-- What reports say about the auditor. -/
def summary (a : Auditor) : AuditorSummary := ⟨a.name, a.weight, a.penalty, a.limit⟩

end Auditor

namespace AuditorSummary

/-- The object that says all of a summary. -/
def toJson (s : AuditorSummary) : Json :=
  .object [("name", .string s.name), ("weight", .int s.weight), ("penalty", .int s.penalty),
    ("limit", .ofOption .int s.limit)]

/-- The fields of a summary. -/
def record : Record Json AuditorSummary :=
  AuditorSummary.mk
    <$> .required "name" Json.format.string
    <*> .required "weight" Json.format.int
    <*> .required "penalty" Json.format.int
    <*> .optional "limit" none (Json.format.option Json.format.int)

/-- The summary that a value stands for. -/
def ofJson (j : Json) : Except Problem AuditorSummary :=
  record.decode Json.format "struct AuditorSummary" j

end AuditorSummary

end RouteAudit
