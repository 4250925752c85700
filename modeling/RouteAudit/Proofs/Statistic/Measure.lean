/-
  Proofs/Statistic/Measure.lean --- what a measure has found after a list of routes.

  WHAT THIS FILE IS FOR.  A measure is a loop over routes.  Here is what each loop comes to
  in terms of the list alone: a number of routes, the tally of the scores, their minimum and
  maximum, the share of those that failed.  The running mean has no such form in rounded
  numbers; in exact ones it is the number whose product with the number of routes is the
  sum of the scores.
-/
import RouteAudit.Proofs.Statistic.Exact
import RouteAudit.Proofs.Statistic.Tree

set_option autoImplicit false

namespace RouteAudit

variable {α : Type} [Number α]

/-! ## Shares -/

namespace FailureShare

/-- The share of some routes in a number of visited ones. -/
def of (visited failed : Nat) : FailureShare α := ⟨visited, failed, percentage failed visited⟩

theorem foldl_visit_of (visited failed : Nat) (routes : List AuditedRoute) :
    routes.foldl visit (of visited failed : FailureShare α) =
      of (visited + routes.length) (failed + routes.countP (·.hasFailed)) := by
  induction routes generalizing visited failed with
  | nil => rfl
  | cons r routes ih =>
    have hvisit : (of visited failed : FailureShare α).visit r =
        of (visited + 1) (failed + if r.hasFailed then 1 else 0) := rfl
    rw [List.foldl_cons, hvisit, ih, List.length_cons, List.countP_cons, Nat.add_assoc,
      Nat.add_assoc, Nat.add_comm 1, Nat.add_comm (routes.countP _)]

/-- After the first route the share is that of the routes visited. -/
theorem foldl_visit_empty {routes : List AuditedRoute} (h : routes ≠ []) :
    routes.foldl visit (empty : FailureShare α) =
      of routes.length (routes.countP (·.hasFailed)) := by
  obtain ⟨r, rest, rfl⟩ := List.exists_cons_of_ne_nil h
  have hvisit : (empty : FailureShare α).visit r = (of 0 0).visit r := rfl
  have hall := foldl_visit_of (α := α) 0 0 (r :: rest)
  rw [Nat.zero_add, Nat.zero_add] at hall
  rw [← hall, List.foldl_cons, List.foldl_cons, hvisit]

end FailureShare

/-! ## Loops -/

namespace Measure

variable (routes : List AuditedRoute)

theorem typeName_visit (m : Measure α) (r : AuditedRoute) : (m.visit r).typeName = m.typeName := by
  cases m <;> rfl

theorem typeName_settle (m : Measure α) : m.settle.typeName = m.typeName := by
  cases m <;> rfl

theorem kind_aggregate (m : Measure α) : (m.aggregate routes).kind = m.kind := by
  have hfold : (routes.foldl visit m).typeName = m.typeName := by
    induction routes generalizing m with
    | nil => rfl
    | cons r routes ih => rw [List.foldl_cons, ih, typeName_visit]
  rw [aggregate, kind, typeName_settle, hfold, kind]

theorem foldl_visit_conditionedCount (accepts : AuditedRoute → Bool) (found : Nat) :
    routes.foldl visit (.conditionedCount accepts found : Measure α) =
      .conditionedCount accepts (found + routes.countP accepts) := by
  induction routes generalizing found with
  | nil => rfl
  | cons r routes ih =>
    rw [List.foldl_cons, visit, ih, List.countP_cons]
    by_cases hr : accepts r = true
    · rw [if_pos hr, if_pos hr, Nat.add_assoc, Nat.add_comm 1]
    · rw [if_neg hr, if_neg hr, Nat.add_zero]

-- In the other measures a route only changes the one part that the loop is about.

theorem foldl_visit_medianScore (scores : Tally Int) (median : α) :
    routes.foldl visit (.medianScore scores median) =
      .medianScore ((routes.map (·.score)).foldl Tally.mark scores) median := by
  rw [List.foldl_map]
  exact List.foldl_hom (fun scores => medianScore scores median) fun _ _ => rfl

theorem foldl_visit_modeScore (scores : Tally Int) (mode : Int) :
    routes.foldl visit (.modeScore scores mode : Measure α) =
      .modeScore ((routes.map (·.score)).foldl Tally.mark scores) mode := by
  rw [List.foldl_map]
  exact List.foldl_hom (fun scores => modeScore scores mode) fun _ _ => rfl

theorem foldl_visit_lowestScore (lowest : Int) :
    routes.foldl visit (.lowestScore (some lowest) : Measure α) =
      .lowestScore (some ((routes.map (·.score)).foldl min lowest)) := by
  rw [List.foldl_map]
  exact List.foldl_hom (fun lowest => lowestScore (some lowest)) fun _ _ => rfl

theorem foldl_visit_highestScore (highest : Int) :
    routes.foldl visit (.highestScore (some highest) : Measure α) =
      .highestScore (some ((routes.map (·.score)).foldl max highest)) := by
  rw [List.foldl_map]
  exact List.foldl_hom (fun highest => highestScore (some highest)) fun _ _ => rfl

theorem foldl_visit_failedPercentage (share : FailureShare α) :
    routes.foldl visit (.failedPercentage share) =
      .failedPercentage (routes.foldl FailureShare.visit share) :=
  List.foldl_hom failedPercentage fun _ _ => rfl

theorem foldl_visit_successPercentage (share : FailureShare α) :
    routes.foldl visit (.successPercentage share) =
      .successPercentage (routes.foldl FailureShare.visit share) :=
  List.foldl_hom successPercentage fun _ _ => rfl

/-- The product of the running mean with the number of routes goes along with the sum of the
scores. -/
theorem foldl_visit_averageScore (visited : Nat) (mean : ℚ) :
    ∃ mean', routes.foldl visit (.averageScore visited mean) =
        .averageScore (visited + routes.length) mean' ∧
      mean' * ↑(visited + routes.length) = mean * visited + ((routes.map (·.score)).sum : ℤ) := by
  induction routes generalizing visited mean with
  | nil => exact ⟨mean, rfl, by simp⟩
  | cons r routes ih =>
    obtain ⟨mean', hfold, hmul⟩ := ih (visited + 1) (nextMean visited mean r.score)
    have hcount : visited + (r :: routes).length = visited + 1 + routes.length := by
      rw [List.length_cons]
      omega
    refine ⟨mean', by rw [hcount]; exact hfold, ?_⟩
    rw [hcount, hmul, Nat.cast_succ, nextMean_mul, List.map_cons, List.sum_cons, Int.cast_add,
      add_assoc]

/-! ## Measures that start anew -/

theorem aggregate_countOf (accepts : AuditedRoute → Bool) :
    (countOf accepts : Measure α).aggregate routes =
      .conditionedCount accepts (routes.countP accepts) := by
  rw [aggregate, countOf, foldl_visit_conditionedCount, Nat.zero_add]
  rfl

theorem aggregate_count :
    (count : Measure α).aggregate routes = .conditionedCount (fun _ => true) routes.length := by
  rw [count, ← countOf, aggregate_countOf, List.countP_true]

theorem aggregate_median :
    (median : Measure α).aggregate routes =
      .medianScore (.ofList (routes.map (·.score)))
        (medianOf (.ofList (routes.map (·.score)))) := by
  rw [aggregate, median, foldl_visit_medianScore, ← Tally.ofList, settle]

theorem aggregate_mode :
    (mode : Measure α).aggregate routes =
      .modeScore (.ofList (routes.map (·.score)))
        ((Tally.ofList (routes.map (·.score))).mode?.getD 0) := by
  rw [aggregate, mode, foldl_visit_modeScore, ← Tally.ofList, settle]

theorem aggregate_lowest :
    (lowest : Measure α).aggregate routes = .lowestScore (routes.map (·.score)).min? := by
  cases routes with
  | nil => rfl
  | cons r routes =>
    rw [aggregate, List.foldl_cons, lowest, visit, Option.elim, foldl_visit_lowestScore,
      List.map_cons, List.min?_cons']
    rfl

theorem aggregate_highest :
    (highest : Measure α).aggregate routes = .highestScore (routes.map (·.score)).max? := by
  cases routes with
  | nil => rfl
  | cons r routes =>
    rw [aggregate, List.foldl_cons, highest, visit, Option.elim, foldl_visit_highestScore,
      List.map_cons, List.max?_cons']
    rfl

/-- In exact numbers, the mean times the number of routes is the sum of the scores. -/
theorem average_mul_length :
    ((average : Measure ℚ).aggregate routes).result * routes.length =
      ((routes.map (·.score)).sum : ℤ) := by
  obtain ⟨mean, hfold, hmul⟩ := foldl_visit_averageScore routes 0 0
  have hresult : ((average : Measure ℚ).aggregate routes).result = mean :=
    congrArg (fun m : Measure ℚ => m.settle.result) hfold
  rw [Nat.zero_add] at hmul
  rw [hresult, hmul, zero_mul, zero_add]

end Measure

/-- A measure alone reports its figure under its name. -/
theorem Statistic.report_aggregate_single (customName : Option String) (m : Measure α)
    (routes : List AuditedRoute) :
    ((single customName m).aggregate routes).report =
      .figure m.kind (customName.getD (Text.sentenceCase m.kind)) (m.aggregate routes).result := by
  rw [aggregate_single, report, Measure.kind_aggregate]

end RouteAudit
