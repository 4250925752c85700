/-
  Proofs/Statistic/Defaults.lean --- the default statistics agree with each other.

  WHAT THIS FILE IS FOR.  Each of the nine default statistics is found by a loop of its own.
  In exact numbers they nevertheless fit together as their names promise: mean, median and
  mode lie between the lowest and the highest score, the shares of the failed and of the
  other routes make up the whole, and the mean is that of all the scores.

  HOW IT GOES.  Each figure is first described alone, in terms of the scores.  That median
  and mode lie within bounds follows from what they are made of, which are scores.

  Main statement: `defaults_consistent`.
-/
import Mathlib.Tactic.Linarith
import RouteAudit.Proofs.Statistic.Kind
import RouteAudit.Proofs.Statistic.Measure
import RouteAudit.Proofs.Statistic.Ranks

set_option autoImplicit false

namespace RouteAudit

/-! ## The scores that figures are made of -/

namespace Measure

variable {α : Type} [Number α] {routes : List AuditedRoute}

theorem exists_result_lowest (h : routes ≠ []) :
    ∃ score, ((lowest : Measure α).aggregate routes).result = number score ∧
      (∃ r ∈ routes, r.score = score) ∧ ∀ r ∈ routes, score ≤ r.score := by
  cases hmin : (routes.map (·.score)).min? with
  | none => exact absurd (List.map_eq_nil_iff.1 (List.min?_eq_none_iff.1 hmin)) h
  | some score =>
    obtain ⟨hmem, hleast⟩ := List.min?_eq_some_iff.1 hmin
    refine ⟨score, ?_, List.mem_map.1 hmem, fun r hr => hleast _ (List.mem_map_of_mem hr)⟩
    rw [aggregate_lowest, hmin]
    rfl

theorem exists_result_highest (h : routes ≠ []) :
    ∃ score, ((highest : Measure α).aggregate routes).result = number score ∧
      (∃ r ∈ routes, r.score = score) ∧ ∀ r ∈ routes, r.score ≤ score := by
  cases hmax : (routes.map (·.score)).max? with
  | none => exact absurd (List.map_eq_nil_iff.1 (List.max?_eq_none_iff.1 hmax)) h
  | some score =>
    obtain ⟨hmem, hgreatest⟩ := List.max?_eq_some_iff.1 hmax
    refine ⟨score, ?_, List.mem_map.1 hmem, fun r hr => hgreatest _ (List.mem_map_of_mem hr)⟩
    rw [aggregate_highest, hmax]
    rfl

theorem total_scores_pos (h : routes ≠ []) : 0 < (Tally.ofList (routes.map (·.score))).total :=
  Tally.total_ofList_pos fun hnil => h (List.map_eq_nil_iff.1 hnil)

theorem exists_result_mode (h : routes ≠ []) :
    ∃ score, ((mode : Measure α).aggregate routes).result = number score ∧
      ∃ r ∈ routes, r.score = score := by
  obtain ⟨score, hmode, hcount⟩ := Tally.exists_mode? (total_scores_pos h)
  refine ⟨score, ?_, List.mem_map.1 (Tally.count_ofList_pos_iff.1 hcount)⟩
  rw [aggregate_mode, hmode]
  rfl

theorem exists_result_median (h : routes ≠ []) :
    ∃ low high, ((median : Measure α).aggregate routes).result =
        (number low + number high) / number 2 ∧
      (∃ r ∈ routes, r.score = low) ∧ ∃ r ∈ routes, r.score = high := by
  obtain ⟨low, high, hmiddle, hlow, hhigh⟩ := Tally.exists_middle? (total_scores_pos h)
  refine ⟨low, high, ?_, List.mem_map.1 (Tally.count_ofList_pos_iff.1 hlow),
    List.mem_map.1 (Tally.count_ofList_pos_iff.1 hhigh)⟩
  rw [aggregate_median, medianOf, hmiddle]
  rfl

/-! ## Exact figures within bounds -/

section Bounds

variable {least greatest : Int} (h : routes ≠ [])
  (hbounds : ∀ r ∈ routes, least ≤ r.score ∧ r.score ≤ greatest)

include h hbounds

theorem result_median_between : (least : ℚ) ≤ (median.aggregate routes).result ∧
    (median.aggregate routes).result ≤ (greatest : ℚ) := by
  obtain ⟨low, high, hresult, ⟨r, hr, rfl⟩, ⟨s, hs, rfl⟩⟩ := exists_result_median (α := ℚ) h
  have hbetween : ∀ r ∈ routes, (least : ℚ) ≤ r.score ∧ (r.score : ℚ) ≤ greatest :=
    fun r hr => (hbounds r hr).imp Int.cast_le.2 Int.cast_le.2
  obtain ⟨hleastR, hgreatestR⟩ := hbetween r hr
  obtain ⟨hleastS, hgreatestS⟩ := hbetween s hs
  rw [hresult, number_eq_cast, number_eq_cast, number_eq_cast, Int.cast_ofNat]
  constructor <;> linarith

/-- The sum of the scores lies between the bounds as often as there are routes. -/
theorem result_average_between : (least : ℚ) ≤ (average.aggregate routes).result ∧
    (average.aggregate routes).result ≤ (greatest : ℚ) := by
  have hpos : (0 : ℚ) < routes.length := Nat.cast_pos.2 (List.length_pos_of_ne_nil h)
  have hleast := List.card_nsmul_le_sum (routes.map (·.score)) least
    (List.forall_mem_map.2 fun r hr => (hbounds r hr).1)
  have hgreatest := List.sum_le_card_nsmul (routes.map (·.score)) greatest
    (List.forall_mem_map.2 fun r hr => (hbounds r hr).2)
  rw [List.length_map, nsmul_eq_mul, mul_comm] at hleast hgreatest
  constructor <;> refine le_of_mul_le_mul_right ?_ hpos <;> rw [average_mul_length]
  · exact_mod_cast hleast
  · exact_mod_cast hgreatest

end Bounds

theorem percentage_nonneg (part whole : Nat) : (0 : ℚ) ≤ percentage part whole := by
  rw [percentage_eq]
  positivity

theorem percentage_le {part whole : Nat} (h : part ≤ whole) :
    (percentage part whole : ℚ) ≤ 100 := by
  have hshare : (part : ℚ) / whole ≤ 1 :=
    div_le_one_of_le₀ (Nat.cast_le.2 h) (Nat.cast_nonneg whole)
  rw [percentage_eq]
  linarith

theorem result_failures (h : routes ≠ []) : ((failures : Measure α).aggregate routes).result =
    percentage (routes.countP (·.hasFailed)) routes.length := by
  rw [aggregate, failures, foldl_visit_failedPercentage, FailureShare.foldl_visit_empty h]
  rfl

theorem result_successes (h : routes ≠ []) : ((successes : Measure α).aggregate routes).result =
    number 100 - percentage (routes.countP (·.hasFailed)) routes.length := by
  have hvisited : routes.length ≠ 0 := fun hzero => h (List.length_eq_zero_iff.1 hzero)
  rw [aggregate, successes, foldl_visit_successPercentage, FailureShare.foldl_visit_empty h]
  exact if_neg hvisited

end Measure

/-! ## The default statistics together -/

/-- The figures of the default statistics. -/
structure Overview (α : Type) where
  total : α
  failed : α
  failures : α
  successes : α
  average : α
  median : α
  mode : α
  lowest : α
  highest : α

namespace Overview

/-- What the default statistics report if these are their figures. -/
def reports {α : Type} (v : Overview α) : List (Report α) :=
  [.figure "conditioned_count" "Total routes" v.total,
    .figure "conditioned_count" "Failed routes" v.failed,
    .figure "failed_percentage" "Failed percentage" v.failures,
    .figure "success_percentage" "Success percentage" v.successes,
    .figure "average_score" "Average score" v.average,
    .figure "median_score" "Median score" v.median,
    .figure "mode_score" "Mode score" v.mode,
    .figure "lowest_score" "Lowest score" v.lowest,
    .figure "highest_score" "Highest score" v.highest]

variable {α : Type} [Number α]

/-- The figures about routes. -/
def ofRoutes (routes : List AuditedRoute) : Overview α where
  total := (Measure.count.aggregate routes).result
  failed := ((Measure.countOf (·.hasFailed)).aggregate routes).result
  failures := (Measure.failures.aggregate routes).result
  successes := (Measure.successes.aggregate routes).result
  average := (Measure.average.aggregate routes).result
  median := (Measure.median.aggregate routes).result
  mode := (Measure.mode.aggregate routes).result
  lowest := (Measure.lowest.aggregate routes).result
  highest := (Measure.highest.aggregate routes).result

theorem reports_defaults (routes : List AuditedRoute) :
    Statistic.reports (Statistic.defaults : List (Statistic α)) routes =
      (ofRoutes routes).reports := by
  have hnames : ["failed_percentage", "success_percentage", "average_score", "median_score",
      "mode_score", "lowest_score", "highest_score"].map Text.sentenceCase =
    ["Failed percentage", "Success percentage", "Average score", "Median score", "Mode score",
      "Lowest score", "Highest score"] := by rfl
  have hkinds : ([.count, .countOf (·.hasFailed), .failures, .successes, .average, .median, .mode,
      .lowest, .highest] : List (Measure α)).map Measure.kind =
    ["conditioned_count", "conditioned_count", "failed_percentage", "success_percentage",
      "average_score", "median_score", "mode_score", "lowest_score", "highest_score"] := by
    simp only [List.map_cons, Measure.kind_eq]
    rfl
  simp only [List.map_cons, List.map_nil, List.cons.injEq] at hnames hkinds
  simp only [Statistic.reports, Statistic.defaults, List.map_cons, List.map_nil,
    Statistic.report_aggregate_single, Option.getD_some, Option.getD_none, hkinds, hnames]
  rfl

/-- The figures about a list of routes fit together. -/
structure IsConsistent (v : Overview ℚ) (routes : List AuditedRoute) : Prop where
  total_eq : v.total = routes.length
  failed_eq : v.failed = routes.countP (·.hasFailed)
  failures_eq : v.failures = 100 * v.failed / routes.length
  failures_nonneg : 0 ≤ v.failures
  failures_le : v.failures ≤ 100
  failures_add_successes : v.failures + v.successes = 100
  average_mul : v.average * routes.length = ((routes.map (·.score)).sum : ℤ)
  lowest_mem : ∃ r ∈ routes, v.lowest = r.score
  highest_mem : ∃ r ∈ routes, v.highest = r.score
  mode_mem : ∃ r ∈ routes, v.mode = r.score
  lowest_le_median : v.lowest ≤ v.median
  median_le_highest : v.median ≤ v.highest
  lowest_le_mode : v.lowest ≤ v.mode
  mode_le_highest : v.mode ≤ v.highest
  lowest_le_average : v.lowest ≤ v.average
  average_le_highest : v.average ≤ v.highest

theorem isConsistent_ofRoutes {routes : List AuditedRoute} (h : routes ≠ []) :
    (ofRoutes routes).IsConsistent routes := by
  obtain ⟨low, hlowest, ⟨least, hleast, rfl⟩, hlow⟩ := Measure.exists_result_lowest (α := ℚ) h
  obtain ⟨high, hhighest, ⟨greatest, hgreatest, rfl⟩, hhigh⟩ :=
    Measure.exists_result_highest (α := ℚ) h
  obtain ⟨often, hmode, ⟨frequent, hfrequent, rfl⟩⟩ := Measure.exists_result_mode (α := ℚ) h
  have hbounds : ∀ r ∈ routes, least.score ≤ r.score ∧ r.score ≤ greatest.score :=
    fun r hr => ⟨hlow r hr, hhigh r hr⟩
  have hmedian := Measure.result_median_between h hbounds
  have haverage := Measure.result_average_between h hbounds
  have hfailures : (ofRoutes routes : Overview ℚ).failures =
      percentage (routes.countP (·.hasFailed)) routes.length := Measure.result_failures h
  have hsuccesses : (ofRoutes routes : Overview ℚ).successes =
      100 - percentage (routes.countP (·.hasFailed)) routes.length := Measure.result_successes h
  have hfailed : (ofRoutes routes : Overview ℚ).failed = routes.countP (·.hasFailed) := by
    rw [ofRoutes, Measure.aggregate_countOf]
    rfl
  exact {
    total_eq := by rw [ofRoutes, Measure.aggregate_count]; rfl
    failed_eq := hfailed
    failures_eq := by rw [hfailures, hfailed, percentage_eq]; ring
    failures_nonneg := by rw [hfailures]; exact Measure.percentage_nonneg _ _
    failures_le := by rw [hfailures]; exact Measure.percentage_le List.countP_le_length
    failures_add_successes := by rw [hfailures, hsuccesses]; ring
    average_mul := Measure.average_mul_length routes
    lowest_mem := ⟨least, hleast, hlowest⟩
    highest_mem := ⟨greatest, hgreatest, hhighest⟩
    mode_mem := ⟨frequent, hfrequent, hmode⟩
    lowest_le_median := hlowest.trans_le hmedian.1
    median_le_highest := hmedian.2.trans_eq hhighest.symm
    lowest_le_mode := by
      refine hlowest.trans_le (le_of_le_of_eq ?_ hmode.symm)
      exact Int.cast_le.2 (hlow frequent hfrequent)
    mode_le_highest := by
      refine hmode.trans_le (le_of_le_of_eq ?_ hhighest.symm)
      exact Int.cast_le.2 (hhigh frequent hfrequent)
    lowest_le_average := hlowest.trans_le haverage.1
    average_le_highest := haverage.2.trans_eq hhighest.symm }

/-- Without routes all figures are zero. -/
theorem ofRoutes_nil : (ofRoutes [] : Overview ℚ) = ⟨0, 0, 0, 0, 0, 0, 0, 0, 0⟩ := rfl

end Overview

/-- The default statistics report nine figures.  In exact numbers they fit together whenever
there are routes, and are all zero if there are none. -/
theorem Statistic.defaults_consistent (routes : List AuditedRoute) :
    ∃ v : Overview ℚ, reports defaults routes = v.reports ∧
      (routes ≠ [] → v.IsConsistent routes) ∧
      (routes = [] → v = ⟨0, 0, 0, 0, 0, 0, 0, 0, 0⟩) := by
  refine ⟨.ofRoutes routes, Overview.reports_defaults routes, Overview.isConsistent_ofRoutes, ?_⟩
  rintro rfl
  exact Overview.ofRoutes_nil

/-- One route that fails and one that passes. -/
theorem Statistic.defaults_consistent_sample :
    let routes : List AuditedRoute := [{ route := .stringable "a", benchmark := 3, score := -2 },
      { route := .stringable "b", benchmark := 3, score := 5 }]
    routes ≠ [] ∧ ∃ v : Overview ℚ, reports defaults routes = v.reports ∧
      v.IsConsistent routes := by
  intro routes
  have hroutes : routes ≠ [] := List.cons_ne_nil _ _
  obtain ⟨v, hreports, hconsistent, -⟩ := defaults_consistent routes
  exact ⟨hroutes, v, hreports, hconsistent hroutes⟩

end RouteAudit
