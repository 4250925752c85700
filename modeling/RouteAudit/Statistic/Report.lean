/-
  Statistic/Report.lean --- what is reported of statistics.

  WHAT THIS FILE IS FOR.  A report is a figure, or a group of reports, with a kind and a
  name.  It is shown with no decimal places if the figure is whole and with two
  otherwise.
-/
import RouteAudit.Decimal.Fixed
import RouteAudit.Json.Decode

set_option autoImplicit false

namespace RouteAudit

open RouteAudit.Decode

/-- A figure or a group of reports. -/
inductive Report (α : Type) where
  | figure (kind name : String) (value : α)
  | group (kind name : String) (reports : List (Report α))
  deriving Repr, Inhabited, BEq

namespace Report

variable {α : Type}

/-- The word for what was measured. -/
def kind : Report α → String
  | .figure kind _ _ => kind
  | .group kind _ _ => kind

/-- The name that is shown. -/
def name : Report α → String
  | .figure _ name _ => name
  | .group _ name _ => name

/-! ## Display -/

/-- A figure as it is shown: with two decimal places, or none if it is whole. -/
def figureText (x : Float) : String :=
  match Decimal.Binary.ofFloat? x with
  | some b => Decimal.fixedText (if b.isWhole then 0 else 2) b
  | none => if x.isNaN then "NaN" else if x < 0.0 then "-inf" else "inf"

mutual

/-- The result of a report as it is shown. -/
def display : Report Float → String
  | .figure _ _ value => figureText value
  | .group _ _ reports => ", ".intercalate (displays reports)

/-- Each of several reports with its name. -/
def displays : List (Report Float) → List String
  | [] => []
  | report :: rest => (report.name ++ ": " ++ report.display) :: displays rest

end

/-! ## The JSON form -/

mutual

/-- The object that says all of a report. -/
def toJson : Report Float → Json
  | .figure kind name value =>
    .object [("kind", .string kind), ("name", .string name), ("result", .float value)]
  | .group kind name reports =>
    .object [("kind", .string kind), ("name", .string name),
      ("result", .array (toJsonItems reports))]

/-- The objects of several reports. -/
def toJsonItems : List (Report Float) → List Json
  | [] => []
  | report :: rest => report.toJson :: toJsonItems rest

end

/-- The result of a report: a number, or a list of reports that `inner` decodes. -/
def resultOfJson (inner : Json → Except Problem (Report Float)) (j : Json) :
    Except Problem (String → String → Report Float) :=
  match Json.format.float j with
  | .ok value => .ok fun kind name => .figure kind name value
  | .error _ =>
    match Json.format.list inner j with
    | .ok reports => .ok fun kind name => .group kind name reports
    | .error _ => .error (.noVariant "AggregateValue")

/-- The fields of a report. -/
def record (inner : Json → Except Problem (Report Float)) : Record Json (Report Float) :=
  (fun kind name result => result kind name)
    <$> .required "kind" Json.format.string
    <*> .required "name" Json.format.string
    <*> .required "result" (resultOfJson inner)

/-- The report that a value of at most the given depth stands for. -/
def ofJsonAt : Nat → Json → Except Problem (Report Float)
  | 0, _ => .error (.noVariant "AggregateValue")
  | depth + 1, j => (record (ofJsonAt depth)).decode Json.format "struct AggregateReport" j

/-- The report that a value stands for. -/
def ofJson (j : Json) : Except Problem (Report Float) := ofJsonAt j.depth j

end Report

end RouteAudit
