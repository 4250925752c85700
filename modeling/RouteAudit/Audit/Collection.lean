/-
  Audit/Collection.lean --- ordering and filtering audited routes.

  WHAT THIS FILE IS FOR.  Reports list routes by their scores, in either direction;
  routes with one score come in the order of their names, and those that also share the
  name stay as they were.
-/
import RouteAudit.Audit.Audited

set_option autoImplicit false

namespace RouteAudit.Collection

/-- A direction of scores. -/
inductive Order where
  | ascending
  | descending
  deriving DecidableEq, Repr, Inhabited

/-- Whether a score may stand before another one. -/
def Order.allows : Order → Int → Int → Bool
  | .ascending, a, b => a ≤ b
  | .descending, a, b => b ≤ a

/-- Whether a route may stand before another one: by the score, and if it is the same by
the name. -/
def mayPrecede (order : Order) (a b : AuditedRoute) : Bool :=
  if a.score = b.score then decide ¬ b.displayName < a.displayName
  else order.allows a.score b.score

/-- The routes in order. -/
def sort (order : Order) (routes : List AuditedRoute) : List AuditedRoute :=
  routes.mergeSort (mayPrecede order)

/-- The routes of a status. -/
def withStatus (status : Status) (routes : List AuditedRoute) : List AuditedRoute :=
  routes.filter (·.status = status)

/-- The routes that fail. -/
def failed (routes : List AuditedRoute) : List AuditedRoute := withStatus .failed routes

/-- The routes with a status of the given word, or with a name that occurs in the given
text. -/
def filterBy (field value : String) (routes : List AuditedRoute) :
    Except AuditError (List AuditedRoute) :=
  match field with
  | "status" => .ok (routes.filter (·.status.text == value))
  | "name" => .ok (routes.filter fun r => Text.occursIn r.displayName.toList value.toList)
  | other => .error (.unsupportedField other)

end RouteAudit.Collection
