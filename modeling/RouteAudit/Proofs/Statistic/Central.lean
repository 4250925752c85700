/-
  Proofs/Statistic/Central.lean --- median and mode as figures of the sorted scores.

  WHAT THIS FILE IS FOR.  Median and mode are found in a tally, without a list of scores.
  Here they are read off the list: the median is made of the scores in the middle of the
  sorted list, the mode is the least of those that occur most often in it.  The order in
  which routes were seen plays no part.

  Main statements: `aggregate_median_middle` and `aggregate_mode_most`.
-/
import Mathlib.Algebra.Field.Basic
import RouteAudit.Proofs.Statistic.Measure
import RouteAudit.Proofs.Statistic.Ranks

set_option autoImplicit false

namespace RouteAudit.Measure

variable {α : Type} [Number α]

/-! ## The two ranks in the middle -/

/-- The ranks in the middle both hold a score if there are any scores, so it makes no
difference that a missing one would count as zero. -/
theorem medianOf_eq_ite (scores : Tally Int) :
    (medianOf scores : α) = if scores.total = 0 then number 0 else
      (number ((scores.atRank? ((scores.total - 1) / 2)).getD 0) +
        number ((scores.atRank? (scores.total / 2)).getD 0)) / number 2 := by
  by_cases htotal : scores.total = 0
  · have hnone : scores.middle? = none := by
      rw [Tally.middle?, Tally.atRank?_eq_none (by omega)]
      rfl
    rw [medianOf, hnone, if_pos htotal]
  · obtain ⟨low, high, hmiddle, -⟩ := Tally.exists_middle? (Nat.pos_of_ne_zero htotal)
    obtain ⟨hlow, hhigh⟩ := Tally.atRank?_of_middle? hmiddle
    rw [medianOf, hmiddle, if_neg htotal, hlow, hhigh, Option.getD_some, Option.getD_some]

/-- The scores in the middle of the sorted list are at the ranks that the median looks up. -/
theorem medianOf_ofList {scores : List Int} {low high : Int}
    (hlow : scores.mergeSort[(scores.length - 1) / 2]? = some low)
    (hhigh : scores.mergeSort[scores.length / 2]? = some high) :
    (medianOf (.ofList scores) : α) = (number low + number high) / number 2 := by
  have hpos : scores.length ≠ 0 := by
    have hplace := (List.getElem?_eq_some_iff.1 hlow).1
    rw [List.length_mergeSort] at hplace
    omega
  rw [medianOf_eq_ite, Tally.total_ofList, if_neg hpos, Tally.atRank?_ofList,
    Tally.atRank?_ofList, hlow, hhigh, Option.getD_some, Option.getD_some]

theorem exists_middle_of_ne_nil {scores : List Int} (h : scores ≠ []) :
    ∃ low high, scores.mergeSort[(scores.length - 1) / 2]? = some low ∧
      scores.mergeSort[scores.length / 2]? = some high := by
  have hpos : 0 < scores.length := List.length_pos_of_ne_nil h
  have hlength : scores.mergeSort.length = scores.length := List.length_mergeSort scores
  have hlow : (scores.length - 1) / 2 < scores.mergeSort.length := by omega
  have hhigh : scores.length / 2 < scores.mergeSort.length := by omega
  exact ⟨_, _, List.getElem?_eq_getElem hlow, List.getElem?_eq_getElem hhigh⟩

/-! ## Routes in any order -/

section Visited

variable {scores : List Int} {routes : List AuditedRoute}
  (hvisited : (routes.map (·.score)).Perm scores)

include hvisited

theorem aggregate_median_of_perm : (median : Measure α).aggregate routes =
    .medianScore (.ofList scores) (medianOf (.ofList scores)) := by
  rw [aggregate_median, Tally.ofList_eq_of_perm hvisited]

theorem aggregate_mode_of_perm : (mode : Measure α).aggregate routes =
    .modeScore (.ofList scores) ((Tally.ofList scores).mode?.getD 0) := by
  rw [aggregate_mode, Tally.ofList_eq_of_perm hvisited]

/-- Every rank of the tally holds what stands there in the sorted list, and the median is
made of the two scores in the middle.  In exact numbers it is halfway between them, and the
middle score itself if the number of scores is odd. -/
theorem aggregate_median_middle :
    ∃ tally : Tally Int, tally.total = scores.length ∧
      (∀ rank, tally.atRank? rank = scores.mergeSort[rank]?) ∧
      (scores = [] → (median : Measure α).aggregate routes = .medianScore tally (number 0) ∧
        (median.aggregate routes).result = (0 : ℚ)) ∧
      (scores ≠ [] → ∃ low high,
        scores.mergeSort[(scores.length - 1) / 2]? = some low ∧
        scores.mergeSort[scores.length / 2]? = some high ∧
        (median : Measure α).aggregate routes =
          .medianScore tally ((number low + number high) / number 2) ∧
        (median.aggregate routes).result = ((low : ℚ) + high) / 2 ∧
        (scores.length % 2 = 1 → (median.aggregate routes).result = (high : ℚ))) := by
  refine ⟨.ofList scores, Tally.total_ofList scores, Tally.atRank?_ofList scores, ?_,
    fun hscores => ?_⟩
  · rintro rfl
    exact ⟨aggregate_median_of_perm hvisited, by rw [aggregate_median_of_perm hvisited]; rfl⟩
  · obtain ⟨low, high, hlow, hhigh⟩ := exists_middle_of_ne_nil hscores
    have hexact : (median.aggregate routes).result = ((low : ℚ) + high) / 2 := by
      rw [aggregate_median_of_perm hvisited, result, medianOf_ofList hlow hhigh, number_eq_cast,
        number_eq_cast, number_eq_cast, Int.cast_ofNat]
    refine ⟨low, high, hlow, hhigh, ?_, hexact, fun hodd => ?_⟩
    · rw [aggregate_median_of_perm hvisited, medianOf_ofList hlow hhigh]
    · have hplace : (scores.length - 1) / 2 = scores.length / 2 := by omega
      rw [hplace, hhigh] at hlow
      rw [hexact, Option.some.inj hlow, add_self_div_two]

/-- The mode is a score, none occurs more often, and none below it as often. -/
theorem aggregate_mode_most (hscores : scores ≠ []) :
    ∃ (tally : Tally Int) (most : Int),
      (mode : Measure α).aggregate routes = .modeScore tally most ∧ most ∈ scores ∧
      ∀ score, scores.count score ≤ scores.count most ∧
        (scores.count score = scores.count most → most ≤ score) := by
  obtain ⟨most, hmode, hpos⟩ := Tally.exists_mode? (Tally.total_ofList_pos hscores)
  refine ⟨.ofList scores, most, ?_, Tally.count_ofList_pos_iff.1 hpos, fun score => ?_⟩
  · rw [aggregate_mode_of_perm hvisited, hmode, Option.getD_some]
  · have hcount := Tally.count_le_of_mode? hmode score
    rwa [Tally.count_ofList, Tally.count_ofList] at hcount

end Visited

/-- Four scores and three, each seen in another order than listed, and none. -/
theorem aggregate_median_middle_sample :
    let seen : List Int → List AuditedRoute := fun scores =>
      scores.map fun score => { route := .stringable "a", benchmark := 0, score }
    (((seen [100, 1, 40, 30]).map (·.score)).Perm [40, 30, 1, 100] ∧
        [40, 30, 1, 100] ≠ ([] : List Int) ∧
        (median.aggregate (seen [100, 1, 40, 30])).result = (35 : ℚ)) ∧
      (((seen [80, 10, 1]).map (·.score)).Perm [10, 80, 1] ∧ [10, 80, 1].length % 2 = 1 ∧
        (median.aggregate (seen [80, 10, 1])).result = (10 : ℚ)) ∧
      ((seen []).map (·.score)).Perm [] ∧ (median.aggregate (seen [])).result = (0 : ℚ) := by
  intro seen
  have hfour : ((seen [100, 1, 40, 30]).map (·.score)).Perm [40, 30, 1, 100] := by decide
  have hthree : ((seen [80, 10, 1]).map (·.score)).Perm [10, 80, 1] := by decide
  have hnone : ((seen []).map (·.score)).Perm [] := .nil
  refine ⟨⟨hfour, by decide, ?_⟩, ⟨hthree, rfl, ?_⟩, hnone, ?_⟩
  · have hsorted : [40, 30, 1, 100].mergeSort = ([1, 30, 40, 100] : List Int) := by
      simp [List.mergeSort]
    obtain ⟨_, -, -, -, hmiddle⟩ := aggregate_median_middle (α := ℚ) hfour
    obtain ⟨low, high, hlow, hhigh, -, hresult, -⟩ := hmiddle (by decide)
    rw [hsorted] at hlow hhigh
    obtain rfl : 30 = low := Option.some.inj hlow
    obtain rfl : 40 = high := Option.some.inj hhigh
    rw [hresult]
    norm_num
  · have hsorted : [10, 80, 1].mergeSort = ([1, 10, 80] : List Int) := by
      simp [List.mergeSort]
    obtain ⟨_, -, -, -, hmiddle⟩ := aggregate_median_middle (α := ℚ) hthree
    obtain ⟨low, high, -, hhigh, -, -, hodd⟩ := hmiddle (by decide)
    rw [hsorted] at hhigh
    obtain rfl : 10 = high := Option.some.inj hhigh
    exact hodd rfl
  · obtain ⟨_, -, -, hempty, -⟩ := aggregate_median_middle (α := ℚ) hnone
    exact (hempty rfl).2

/-- Three scores that each occur twice, seen in no order. -/
theorem aggregate_mode_most_sample :
    let routes : List AuditedRoute := [50, 50, 99, 5, 5, 99].map fun score =>
      { route := .stringable "a", benchmark := 0, score }
    (routes.map (·.score)).Perm [99, 5, 50, 5, 99, 50] ∧
      [99, 5, 50, 5, 99, 50] ≠ ([] : List Int) ∧
      (mode.aggregate routes).result = (5 : ℚ) := by
  intro routes
  have hvisited : (routes.map (·.score)).Perm [99, 5, 50, 5, 99, 50] := by decide
  have hscores : [99, 5, 50, 5, 99, 50] ≠ ([] : List Int) := by decide
  obtain ⟨_, most, hmode, hmem, hmost⟩ := aggregate_mode_most (α := ℚ) hvisited hscores
  -- All six scores are as frequent, so the least of them is left.
  have hleast : ∀ score ∈ [99, 5, 50, 5, 99, 50],
      ([99, 5, 50, 5, 99, 50].count 5 = [99, 5, 50, 5, 99, 50].count score → score ≤ 5) →
        score = (5 : Int) := by decide
  refine ⟨hvisited, hscores, ?_⟩
  rw [hmode, hleast most hmem (hmost 5).2]
  rfl

end RouteAudit.Measure
