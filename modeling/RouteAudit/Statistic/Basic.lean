/-
  Statistic/Basic.lean --- named figures and groups of them.

  WHAT THIS FILE IS FOR.  A statistic is a measure with a name, or a group of statistics
  that see the same routes.  What it saw is kept, so it can be used on several lists of
  routes one after the other.
-/
import RouteAudit.Statistic.Measure
import RouteAudit.Statistic.Report

set_option autoImplicit false

namespace RouteAudit

/-- A figure or a group of figures about routes. -/
inductive Statistic (α : Type) where
  /-- a measure, with a name of its own or that of its kind -/
  | single (customName : Option String) (measure : Measure α)
  | group (name : String) (children : List (Statistic α))
  deriving Inhabited

namespace Statistic

variable {α : Type} [Number α]

/-! ## Seeing routes -/

mutual

/-- See one more route. -/
def visit (r : AuditedRoute) : Statistic α → Statistic α
  | .single customName measure => .single customName (measure.visit r)
  | .group name children => .group name (visitAll r children)

/-- Let each of several statistics see one more route. -/
def visitAll (r : AuditedRoute) : List (Statistic α) → List (Statistic α)
  | [] => []
  | s :: rest => visit r s :: visitAll r rest

end

mutual

/-- Settle what is known once all routes are seen. -/
def settle : Statistic α → Statistic α
  | .single customName measure => .single customName measure.settle
  | .group name children => .group name (settleAll children)

/-- Settle each of several statistics. -/
def settleAll : List (Statistic α) → List (Statistic α)
  | [] => []
  | s :: rest => settle s :: settleAll rest

end

/-- See the routes of a list and settle. -/
def aggregate (s : Statistic α) (routes : List AuditedRoute) : Statistic α :=
  (routes.foldl (fun s r => s.visit r) s).settle

/-! ## Reports -/

/-- The word for a group. -/
def groupKind : String := Text.snakeCase "Group"

mutual

/-- What is known now. -/
def report : Statistic α → Report α
  | .single customName measure =>
    .figure measure.kind (customName.getD (Text.sentenceCase measure.kind)) measure.result
  | .group name children => .group groupKind name (reportAll children)

/-- What is known now by each of several statistics. -/
def reportAll : List (Statistic α) → List (Report α)
  | [] => []
  | s :: rest => report s :: reportAll rest

end

/-- What several statistics say about routes. -/
def reports (statistics : List (Statistic α)) (routes : List AuditedRoute) : List (Report α) :=
  statistics.map fun s => (s.aggregate routes).report

/-! ## The default ones -/

/-- The statistics that reports contain unless others are asked for. -/
def defaults : List (Statistic α) :=
  [.single (some "Total routes") .count,
    .single (some "Failed routes") (.countOf (·.hasFailed)),
    .single none .failures,
    .single none .successes,
    .single none .average,
    .single none .median,
    .single none .mode,
    .single none .lowest,
    .single none .highest]

end Statistic

end RouteAudit
