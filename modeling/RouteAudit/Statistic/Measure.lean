/-
  Statistic/Measure.lean --- single figures about audited routes.

  WHAT THIS FILE IS FOR.  A measure sees one route after the other and keeps what its
  figure needs.  Median and mode are settled once all routes are seen; seeing further
  routes afterwards and settling again counts all of them.
-/
import RouteAudit.Audit.Audited
import RouteAudit.Statistic.Number
import RouteAudit.Statistic.Ranks
import RouteAudit.Text.Casing

set_option autoImplicit false

namespace RouteAudit

/-! ## Shares of failed routes -/

/-- How many of the visited routes failed, and their share in percent. -/
structure FailureShare (α : Type) where
  visited : Nat
  failed : Nat
  percent : α

namespace FailureShare

variable {α : Type} [Number α]

/-- Nothing visited. -/
def empty : FailureShare α := ⟨0, 0, number 0⟩

/-- Count one more route. -/
def visit (s : FailureShare α) (r : AuditedRoute) : FailureShare α :=
  let visited := s.visited + 1
  let failed := s.failed + if r.hasFailed then 1 else 0
  ⟨visited, failed, percentage failed visited⟩

/-- The share of the routes that did not fail; zero if nothing was visited. -/
def complement (s : FailureShare α) : α :=
  if s.visited = 0 then number 0 else number 100 - s.percent

end FailureShare

/-! ## Measures -/

/-- A figure about routes, with what was seen of them so far. -/
inductive Measure (α : Type) where
  /-- the number of routes that are accepted -/
  | conditionedCount (accepts : AuditedRoute → Bool) (found : Nat)
  | averageScore (visited : Nat) (mean : α)
  /-- the middle score, or the mean of the two middle ones -/
  | medianScore (scores : Tally Int) (median : α)
  /-- the most frequent score, the lowest of several -/
  | modeScore (scores : Tally Int) (mode : Int)
  | lowestScore (lowest : Option Int)
  | highestScore (highest : Option Int)
  | failedPercentage (share : FailureShare α)
  | successPercentage (share : FailureShare α)
  /-- the number of routes with a score within bounds -/
  | totalBetweenScores (lower upper : Option Int) (found : Nat)
  /-- the number of routes with a score within these multiples of their benchmark -/
  | totalAroundBenchmark (lower upper : Option α) (found : Nat)
  deriving Inhabited

namespace Measure

variable {α : Type}

/-- What a measure is called, in camel case. -/
def typeName : Measure α → String
  | .conditionedCount _ _ => "ConditionedCount"
  | .averageScore _ _ => "AverageScore"
  | .medianScore _ _ => "MedianScore"
  | .modeScore _ _ => "ModeScore"
  | .lowestScore _ => "LowestScore"
  | .highestScore _ => "HighestScore"
  | .failedPercentage _ => "FailedPercentage"
  | .successPercentage _ => "SuccessPercentage"
  | .totalBetweenScores _ _ _ => "TotalBetweenScores"
  | .totalAroundBenchmark _ _ _ => "TotalAroundBenchmark"

/-- The word for a measure in reports: its name in snake case. -/
def kind (m : Measure α) : String := Text.snakeCase m.typeName

/-! ## Before the first route -/

variable [Number α]

/-- The number of all routes. -/
def count : Measure α := .conditionedCount (fun _ => true) 0

/-- The number of routes that are accepted. -/
def countOf (accepts : AuditedRoute → Bool) : Measure α := .conditionedCount accepts 0

/-- The mean of the scores. -/
def average : Measure α := .averageScore 0 (number 0)

/-- The score in the middle. -/
def median : Measure α := .medianScore .empty (number 0)

/-- The score that occurs most often. -/
def mode : Measure α := .modeScore .empty 0

/-- The least score. -/
def lowest : Measure α := .lowestScore none

/-- The greatest score. -/
def highest : Measure α := .highestScore none

/-- The share of the routes that failed. -/
def failures : Measure α := .failedPercentage .empty

/-- The share of the routes that passed. -/
def successes : Measure α := .successPercentage .empty

/-- The number of scores within bounds, where there are any. -/
def between (lower upper : Option Int) : Measure α := .totalBetweenScores lower upper 0

/-- The number of scores within multiples of the benchmark, where there are any. -/
def aroundBenchmark (lower upper : Option α) : Measure α := .totalAroundBenchmark lower upper 0

/-! ## Routes -/

/-- Whether a score lies within bounds. -/
def isBetween (lower upper : Option Int) (score : Int) : Bool :=
  !lower.any (score < ·) && !upper.any (· < score)

/-- Whether the score of a route lies within multiples of its benchmark. -/
def isAround (lower upper : Option α) (r : AuditedRoute) : Bool :=
  let score : α := number r.score
  let benchmark : α := number r.benchmark
  !lower.any (fun bound => Number.isLess score (benchmark * bound)) &&
    !upper.any (fun bound => Number.isLess (benchmark * bound) score)

/-- The mean of one more score. -/
def nextMean (visited : Nat) (mean : α) (score : Int) : α :=
  (mean * number visited + number score) / (number visited + number 1)

/-- See one more route. -/
def visit (m : Measure α) (r : AuditedRoute) : Measure α :=
  match m with
  | .conditionedCount accepts found =>
    .conditionedCount accepts (if accepts r then found + 1 else found)
  | .averageScore visited mean => .averageScore (visited + 1) (nextMean visited mean r.score)
  | .medianScore scores median => .medianScore (scores.mark r.score) median
  | .modeScore scores mode => .modeScore (scores.mark r.score) mode
  | .lowestScore lowest => .lowestScore (some (lowest.elim r.score (min · r.score)))
  | .highestScore highest => .highestScore (some (highest.elim r.score (max · r.score)))
  | .failedPercentage share => .failedPercentage (share.visit r)
  | .successPercentage share => .successPercentage (share.visit r)
  | .totalBetweenScores lower upper found =>
    .totalBetweenScores lower upper (if isBetween lower upper r.score then found + 1 else found)
  | .totalAroundBenchmark lower upper found =>
    .totalAroundBenchmark lower upper (if isAround lower upper r then found + 1 else found)

/-- The mean of the scores in the middle; zero if there are none. -/
def medianOf (scores : Tally Int) : α :=
  match scores.middle? with
  | some (low, high) => (number low + number high) / number 2
  | none => number 0

/-- Settle what is known once all routes are seen. -/
def settle : Measure α → Measure α
  | .medianScore scores _ => .medianScore scores (medianOf scores)
  | .modeScore scores _ => .modeScore scores (scores.mode?.getD 0)
  | other => other

/-- The figure. -/
def result : Measure α → α
  | .conditionedCount _ found => number found
  | .averageScore _ mean => mean
  | .medianScore _ median => median
  | .modeScore _ mode => number mode
  | .lowestScore lowest => number (lowest.getD 0)
  | .highestScore highest => number (highest.getD 0)
  | .failedPercentage share => share.percent
  | .successPercentage share => share.complement
  | .totalBetweenScores _ _ found => number found
  | .totalAroundBenchmark _ _ found => number found

end Measure

end RouteAudit
