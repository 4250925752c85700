/-
  Proofs/Statistic/Reorder.lean --- routes in another order.

  WHAT THIS FILE IS FOR.  A report does not depend on the order in which the routes were
  seen.  Every measure has a state of its own: a count, a tally, an extreme, a share that is
  computed anew at every route, a running mean.  For each of them two routes may change
  places, whatever was seen before.  Only the running mean needs exact numbers for that,
  because rounding remembers the order; every other figure is the same in any numbers,
  floating-point ones included.

  Main statement: `reports_perm`.
-/
import RouteAudit.Export
import RouteAudit.Proofs.Audit.Collection
import RouteAudit.Proofs.Statistic.Exact
import RouteAudit.Proofs.Statistic.Kind
import RouteAudit.Proofs.Statistic.Tree
import RouteAudit.Proofs.Tally

set_option autoImplicit false

namespace RouteAudit

variable {α : Type}

/-! ## Two routes change places -/

theorem Tally.mark_comm (t : Tally Int) (a b : Int) : (t.mark a).mark b = (t.mark b).mark a := by
  refine Tally.ext_count fun key => ?_
  rw [count_mark, count_mark, count_mark, count_mark, Nat.add_right_comm]

theorem FailureShare.visit_comm [Number α] (s : FailureShare α) (a b : AuditedRoute) :
    (s.visit a).visit b = (s.visit b).visit a := by
  have hfailed : ∀ m n : Nat, s.failed + m + n = s.failed + n + m := fun m n => by omega
  simp only [visit, hfailed]

namespace Measure

variable [Number α]

/-- Two routes may change places, if they may for the mean where it is one. -/
theorem visit_comm {m : Measure α} {a b : AuditedRoute}
    (hmean : ∀ visited mean, m = .averageScore visited mean →
      nextMean (visited + 1) (nextMean visited mean a.score) b.score =
        nextMean (visited + 1) (nextMean visited mean b.score) a.score) :
    (m.visit a).visit b = (m.visit b).visit a := by
  cases m with
  | conditionedCount accepts found => simp only [visit]; split_ifs <;> rfl
  | averageScore visited mean => simp only [visit, hmean visited mean rfl]
  | medianScore scores median => simp only [visit, Tally.mark_comm]
  | modeScore scores mode => simp only [visit, Tally.mark_comm]
  | lowestScore lowest =>
    cases lowest with
    | none => simp only [visit, Option.elim, min_comm]
    | some least => simp only [visit, Option.elim, min_right_comm]
  | highestScore highest =>
    cases highest with
    | none => simp only [visit, Option.elim, max_comm]
    | some greatest => simp only [visit, Option.elim, max_right_comm]
  | failedPercentage share => simp only [visit, FailureShare.visit_comm]
  | successPercentage share => simp only [visit, FailureShare.visit_comm]
  | totalBetweenScores lower upper found => simp only [visit]; split_ifs <;> rfl
  | totalAroundBenchmark lower upper found => simp only [visit]; split_ifs <;> rfl

theorem aggregate_perm (m : Measure ℚ) {routes routes' : List AuditedRoute}
    (h : routes.Perm routes') : m.aggregate routes = m.aggregate routes' := by
  have hfold := h.foldl_eq' (f := visit)
    (fun a _ b _ _ => visit_comm fun visited mean _ => nextMean_comm visited mean a.score b.score) m
  rw [aggregate, hfold, aggregate]

/-! ## Without the mean -/

/-- The measure with its mean set back, if it is one. -/
def withoutMean : Measure α → Measure α
  | .averageScore visited _ => .averageScore visited (number 0)
  | other => other

theorem withoutMean_visit (m : Measure α) (r : AuditedRoute) :
    (m.withoutMean.visit r).withoutMean = (m.visit r).withoutMean := by
  cases m <;> rfl

theorem withoutMean_settle (m : Measure α) : m.settle.withoutMean = m.withoutMean.settle := by
  cases m <;> rfl

theorem withoutMean_visit_comm (m : Measure α) (a b : AuditedRoute) :
    ((m.visit a).visit b).withoutMean = ((m.visit b).visit a).withoutMean := by
  cases m with
  | averageScore visited mean => rfl
  | _ => exact congrArg withoutMean (visit_comm (by rintro _ _ ⟨⟩))

theorem withoutMean_aggregate_perm (m : Measure α) {routes routes' : List AuditedRoute}
    (h : routes.Perm routes') :
    (m.aggregate routes).withoutMean = (m.aggregate routes').withoutMean := by
  -- Set back after every route, the mean has nothing to remember the order with.
  have hset : ∀ rs : List AuditedRoute,
      rs.foldl (fun m r => (m.visit r).withoutMean) m.withoutMean =
        (rs.foldl visit m).withoutMean :=
    fun rs => List.foldl_hom withoutMean fun m r => withoutMean_visit m r
  have hfold := h.foldl_eq' (f := fun m r => (visit m r).withoutMean)
    (fun a _ b _ m => by
      rw [withoutMean_visit, withoutMean_visit, withoutMean_visit_comm]) m.withoutMean
  rw [hset, hset] at hfold
  rw [aggregate, aggregate, withoutMean_settle, hfold, withoutMean_settle]

end Measure

/-! ## Reports -/

namespace Report

mutual

/-- The report with no value where it is a mean. -/
def withoutMeans : Report α → Report (Option α)
  | .figure kind name value =>
    .figure kind name (if kind = "average_score" then none else some value)
  | .group kind name reports => .group kind name (withoutMeansAll reports)

/-- Several reports with no value where it is a mean. -/
def withoutMeansAll : List (Report α) → List (Report (Option α))
  | [] => []
  | report :: rest => withoutMeans report :: withoutMeansAll rest

end

mutual

theorem withoutMeans_reportBy {β : Type} (given : Option String → Measure β → Report α) :
    ∀ s : Statistic β, withoutMeans (s.reportBy given) =
      s.reportBy fun customName m => (given customName m).withoutMeans
  | .single _ _ => rfl
  | .group name children =>
    congrArg (Report.group Statistic.groupKind name) (withoutMeansAll_reportAllBy given children)

theorem withoutMeansAll_reportAllBy {β : Type} (given : Option String → Measure β → Report α) :
    ∀ ss : List (Statistic β), withoutMeansAll (Statistic.reportAllBy given ss) =
      Statistic.reportAllBy (fun customName m => (given customName m).withoutMeans) ss
  | [] => rfl
  | s :: rest =>
    congrArg₂ List.cons (withoutMeans_reportBy given s) (withoutMeansAll_reportAllBy given rest)

end

end Report

namespace Statistic

open Report (withoutMeans withoutMeans_reportBy)

variable {routes routes' : List AuditedRoute}

theorem withoutMeans_report_single [Number α] (customName : Option String) (m : Measure α) :
    (single customName m).report.withoutMeans =
      (single customName m.withoutMean).report.withoutMeans := by
  cases m with
  | averageScore visited mean => simp [report, withoutMeans, Measure.withoutMean, Measure.kind_eq]
  | _ => rfl

theorem report_aggregate_perm (s : Statistic ℚ) (h : routes.Perm routes') :
    (s.aggregate routes).report = (s.aggregate routes').report := by
  rw [report_aggregate, report_aggregate]
  simp only [aggregate_single, Measure.aggregate_perm _ h]

theorem withoutMeans_report_aggregate_perm [Number α] (s : Statistic α)
    (h : routes.Perm routes') :
    (s.aggregate routes).report.withoutMeans = (s.aggregate routes').report.withoutMeans := by
  rw [report_aggregate, report_aggregate, withoutMeans_reportBy, withoutMeans_reportBy]
  -- Only what a measure reports is to be compared, and there the mean may be set back first.
  have hsingle : ∀ (customName : Option String) (m : Measure α),
      ((single customName m).aggregate routes).report.withoutMeans =
        ((single customName m).aggregate routes').report.withoutMeans := fun customName m => by
    rw [aggregate_single, aggregate_single, withoutMeans_report_single,
      Measure.withoutMean_aggregate_perm m h, ← withoutMeans_report_single]
  simp only [hsingle]

theorem reports_exact_perm (statistics : List (Statistic ℚ)) (h : routes.Perm routes') :
    reports statistics routes = reports statistics routes' :=
  List.map_congr_left fun s _ => report_aggregate_perm s h

theorem withoutMeans_reports_perm [Number α] (statistics : List (Statistic α))
    (h : routes.Perm routes') :
    (reports statistics routes).map withoutMeans =
      (reports statistics routes').map withoutMeans := by
  rw [reports, reports, List.map_map, List.map_map]
  exact List.map_congr_left fun s _ => withoutMeans_report_aggregate_perm s h

/-- Statistics of any shape, whatever they have seen before, say the same about routes in
another order: all of it in exact numbers, and all but the means in any numbers.  So the
statistics that an export holds are those of its routes as it lists them. -/
theorem reports_perm [Number α] (rational : List (Statistic ℚ)) (statistics : List (Statistic α))
    (shown : List (Statistic Float)) (h : routes.Perm routes') :
    (reports rational routes = reports rational routes' ∧
        (reports statistics routes).map withoutMeans =
          (reports statistics routes').map withoutMeans) ∧
      reports rational (Export.make shown routes).routes = reports rational routes ∧
        (Export.make shown routes).statistics.map withoutMeans =
          (reports shown (Export.make shown routes).routes).map withoutMeans := by
  have hsorted : (Export.make shown routes).routes.Perm routes := Collection.sort_perm _ routes
  exact ⟨⟨reports_exact_perm rational h, withoutMeans_reports_perm statistics h⟩,
    reports_exact_perm rational hsorted, withoutMeans_reports_perm shown hsorted.symm⟩

/-- A mean and a median, and a mean in a group. -/
def means [Number α] : List (Statistic α) :=
  [.single none .average, .single none .median, .group "Means" [.single (some "Mean") .average]]

/-- Three routes, the other way round. -/
theorem reports_perm_sample :
    let a : AuditedRoute := { route := .stringable "a", benchmark := 3, score := 5 }
    let b : AuditedRoute := { route := .stringable "b", benchmark := 3, score := -2 }
    let c : AuditedRoute := { route := .stringable "c", benchmark := 3, score := 5 }
    [a, b, c].Perm [c, b, a] ∧
      (reports (means : List (Statistic ℚ)) [a, b, c] = reports means [c, b, a] ∧
        (reports [sample] [a, b, c]).map withoutMeans =
          (reports [sample] [c, b, a]).map withoutMeans) ∧
      reports (means : List (Statistic ℚ)) (Export.make means [a, b, c]).routes =
          reports means [a, b, c] ∧
        (Export.make means [a, b, c]).statistics.map withoutMeans =
          (reports means (Export.make means [a, b, c]).routes).map withoutMeans := by
  intro a b c
  have hperm : [a, b, c].Perm [c, b, a] := (List.reverse_perm [a, b, c]).symm
  exact ⟨hperm, reports_perm means [sample] means hperm⟩

end Statistic

end RouteAudit
