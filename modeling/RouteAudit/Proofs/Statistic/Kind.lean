/-
  Proofs/Statistic/Kind.lean --- the kinds of statistics.

  WHAT THIS FILE IS FOR.  A report names the kind of every statistic, and those who read it
  tell statistics apart by that word.  The kind is computed from the name of a type; these
  are the words that come out.
-/
import RouteAudit.Proofs.Text.Casing
import RouteAudit.Statistic.Basic

set_option autoImplicit false

namespace RouteAudit

variable {α : Type}

/-- The kinds of the measures. -/
theorem Measure.kind_eq (m : Measure α) : m.kind =
    match m with
    | .conditionedCount _ _ => "conditioned_count"
    | .averageScore _ _ => "average_score"
    | .medianScore _ _ => "median_score"
    | .modeScore _ _ => "mode_score"
    | .lowestScore _ => "lowest_score"
    | .highestScore _ => "highest_score"
    | .failedPercentage _ => "failed_percentage"
    | .successPercentage _ => "success_percentage"
    | .totalBetweenScores _ _ _ => "total_between_scores"
    | .totalAroundBenchmark _ _ _ => "total_around_benchmark" := by
  open Text in
  cases m with
  | conditionedCount =>
    exact snakeCase_eq "ConditionedCount" "conditioned_count" (by decide +kernel)
  | averageScore => exact snakeCase_eq "AverageScore" "average_score" (by decide +kernel)
  | medianScore => exact snakeCase_eq "MedianScore" "median_score" (by decide +kernel)
  | modeScore => exact snakeCase_eq "ModeScore" "mode_score" (by decide +kernel)
  | lowestScore => exact snakeCase_eq "LowestScore" "lowest_score" (by decide +kernel)
  | highestScore => exact snakeCase_eq "HighestScore" "highest_score" (by decide +kernel)
  | failedPercentage =>
    exact snakeCase_eq "FailedPercentage" "failed_percentage" (by decide +kernel)
  | successPercentage =>
    exact snakeCase_eq "SuccessPercentage" "success_percentage" (by decide +kernel)
  | totalBetweenScores =>
    exact snakeCase_eq "TotalBetweenScores" "total_between_scores" (by decide +kernel)
  | totalAroundBenchmark =>
    exact snakeCase_eq "TotalAroundBenchmark" "total_around_benchmark" (by decide +kernel)

theorem Statistic.groupKind_eq : groupKind = "group" :=
  Text.snakeCase_eq "Group" "group" (by decide +kernel)

end RouteAudit
