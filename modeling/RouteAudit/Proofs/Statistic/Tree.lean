/-
  Proofs/Statistic/Tree.lean --- groups of statistics, and statistics that are used again.

  WHAT THIS FILE IS FOR.  A group hands every route on to its children and reports what they
  report, in their order.  Whatever is done to a tree of statistics is done to each of its
  measures on its own, so a measure in a tree tells the same as it does alone.  Used on
  several lists of routes, a statistic tells the same as on all their routes together: what
  it settles at the end of a list does not get in the way of the next one.

  HOW IT GOES.  Every operation on trees is `onMeasures` of the operation on measures.
  Settling forgets only what settling finds out again (`settle_visit`), and that is all that
  is needed about the kinds of measures.

  Main statement: `report_use`.
-/
import Mathlib.Logic.Function.Iterate
import RouteAudit.Statistic.Basic

set_option autoImplicit false

namespace RouteAudit

variable {α β : Type}

/-! ## Measures -/

namespace Measure

variable [Number α]

/-- See the routes of a list and settle. -/
def aggregate (m : Measure α) (routes : List AuditedRoute) : Measure α :=
  (routes.foldl visit m).settle

/-- A measure that has not seen a route. -/
inductive IsNew : Measure α → Prop where
  | countOf (accepts : AuditedRoute → Bool) : IsNew (countOf accepts)
  | average : IsNew average
  | median : IsNew median
  | mode : IsNew mode
  | lowest : IsNew lowest
  | highest : IsNew highest
  | failures : IsNew failures
  | successes : IsNew successes
  | between (lower upper : Option Int) : IsNew (between lower upper)
  | aroundBenchmark (lower upper : Option α) : IsNew (aroundBenchmark lower upper)

theorem IsNew.settle_eq {m : Measure α} (h : m.IsNew) : m.settle = m := by
  cases h <;> rfl

theorem settle_settle (m : Measure α) : m.settle.settle = m.settle := by
  cases m <;> rfl

/-- What is settled before a route comes is settled anew after it. -/
theorem settle_visit (m : Measure α) (r : AuditedRoute) :
    (m.settle.visit r).settle = (m.visit r).settle := by
  cases m <;> rfl

theorem settle_foldl_visit (m : Measure α) (routes : List AuditedRoute) :
    (routes.foldl visit m.settle).settle = (routes.foldl visit m).settle := by
  induction routes generalizing m with
  | nil => exact settle_settle m
  | cons r routes ih =>
    rw [List.foldl_cons, List.foldl_cons]
    calc (routes.foldl visit (m.settle.visit r)).settle
        = (routes.foldl visit (m.settle.visit r).settle).settle := (ih _).symm
      _ = (routes.foldl visit (m.visit r).settle).settle := by rw [settle_visit]
      _ = (routes.foldl visit (m.visit r)).settle := ih _

theorem settle_aggregate (m : Measure α) (routes : List AuditedRoute) :
    (m.aggregate routes).settle = m.aggregate routes :=
  settle_settle _

theorem aggregate_aggregate (m : Measure α) (first second : List AuditedRoute) :
    (m.aggregate first).aggregate second = m.aggregate (first ++ second) := by
  rw [aggregate, aggregate, settle_foldl_visit, ← List.foldl_append, aggregate]

end Measure

/-! ## Trees -/

namespace Statistic

mutual

/-- The tree with every measure changed. -/
def onMeasures (f : Measure α → Measure α) : Statistic α → Statistic α
  | .single customName measure => .single customName (f measure)
  | .group name children => .group name (onMeasuresAll f children)

/-- The trees of a list with every measure changed. -/
def onMeasuresAll (f : Measure α → Measure α) : List (Statistic α) → List (Statistic α)
  | [] => []
  | s :: rest => onMeasures f s :: onMeasuresAll f rest

end

mutual

/-- The report of a tree in which each measure with its name is given a report. -/
def reportBy (given : Option String → Measure α → Report β) : Statistic α → Report β
  | .single customName measure => given customName measure
  | .group name children => .group groupKind name (reportAllBy given children)

/-- The reports of the trees of a list. -/
def reportAllBy (given : Option String → Measure α → Report β) :
    List (Statistic α) → List (Report β)
  | [] => []
  | s :: rest => reportBy given s :: reportAllBy given rest

end

mutual

theorem onMeasures_id : ∀ s : Statistic α, s.onMeasures (fun m => m) = s
  | .single _ _ => rfl
  | .group name children => congrArg (group name) (onMeasuresAll_id children)

theorem onMeasuresAll_id : ∀ ss : List (Statistic α), onMeasuresAll (fun m => m) ss = ss
  | [] => rfl
  | s :: rest => congrArg₂ List.cons (onMeasures_id s) (onMeasuresAll_id rest)

end

mutual

theorem onMeasures_onMeasures (f g : Measure α → Measure α) :
    ∀ s : Statistic α, (s.onMeasures g).onMeasures f = s.onMeasures fun m => f (g m)
  | .single _ _ => rfl
  | .group name children => congrArg (group name) (onMeasuresAll_onMeasuresAll f g children)

theorem onMeasuresAll_onMeasuresAll (f g : Measure α → Measure α) : ∀ ss : List (Statistic α),
    onMeasuresAll f (onMeasuresAll g ss) = onMeasuresAll (fun m => f (g m)) ss
  | [] => rfl
  | s :: rest =>
    congrArg₂ List.cons (onMeasures_onMeasures f g s) (onMeasuresAll_onMeasuresAll f g rest)

end

variable [Number α]

/-! ## What is done to a tree -/

mutual

theorem visit_eq_onMeasures (r : AuditedRoute) :
    ∀ s : Statistic α, s.visit r = s.onMeasures (·.visit r)
  | .single _ _ => rfl
  | .group name children => congrArg (group name) (visitAll_eq_onMeasuresAll r children)

theorem visitAll_eq_onMeasuresAll (r : AuditedRoute) :
    ∀ ss : List (Statistic α), visitAll r ss = onMeasuresAll (·.visit r) ss
  | [] => rfl
  | s :: rest => congrArg₂ List.cons (visit_eq_onMeasures r s) (visitAll_eq_onMeasuresAll r rest)

end

mutual

theorem settle_eq_onMeasures : ∀ s : Statistic α, s.settle = s.onMeasures (·.settle)
  | .single _ _ => rfl
  | .group name children => congrArg (group name) (settleAll_eq_onMeasuresAll children)

theorem settleAll_eq_onMeasuresAll :
    ∀ ss : List (Statistic α), settleAll ss = onMeasuresAll (·.settle) ss
  | [] => rfl
  | s :: rest => congrArg₂ List.cons (settle_eq_onMeasures s) (settleAll_eq_onMeasuresAll rest)

end

mutual

theorem report_onMeasures (f : Measure α → Measure α) : ∀ s : Statistic α,
    (s.onMeasures f).report = s.reportBy fun customName m => (single customName (f m)).report
  | .single _ _ => rfl
  | .group name children =>
    congrArg (Report.group groupKind name) (reportAll_onMeasuresAll f children)

theorem reportAll_onMeasuresAll (f : Measure α → Measure α) : ∀ ss : List (Statistic α),
    reportAll (onMeasuresAll f ss) =
      reportAllBy (fun customName m => (single customName (f m)).report) ss
  | [] => rfl
  | s :: rest =>
    congrArg₂ List.cons (report_onMeasures f s) (reportAll_onMeasuresAll f rest)

end

theorem foldl_visit_eq_onMeasures (s : Statistic α) (routes : List AuditedRoute) :
    routes.foldl (fun s r => s.visit r) s = s.onMeasures (routes.foldl Measure.visit) := by
  induction routes generalizing s with
  | nil => exact (onMeasures_id s).symm
  | cons r routes ih =>
    rw [List.foldl_cons, ih, visit_eq_onMeasures, onMeasures_onMeasures]
    rfl

theorem aggregate_eq_onMeasures (s : Statistic α) (routes : List AuditedRoute) :
    s.aggregate routes = s.onMeasures (·.aggregate routes) := by
  rw [aggregate, foldl_visit_eq_onMeasures, settle_eq_onMeasures, onMeasures_onMeasures]
  rfl

theorem aggregate_single (customName : Option String) (m : Measure α)
    (routes : List AuditedRoute) :
    (single customName m).aggregate routes = single customName (m.aggregate routes) :=
  aggregate_eq_onMeasures _ routes

/-- A tree reports of every measure what that measure reports alone. -/
theorem report_aggregate (s : Statistic α) (routes : List AuditedRoute) :
    (s.aggregate routes).report =
      s.reportBy fun customName m => ((single customName m).aggregate routes).report := by
  rw [aggregate_eq_onMeasures, report_onMeasures]
  simp only [aggregate_single]

/-! ## Use after use -/

/-- A tree of which no measure has seen a route. -/
inductive IsNew : Statistic α → Prop where
  | single {customName : Option String} {m : Measure α} : m.IsNew → IsNew (.single customName m)
  | group {name : String} {children : List (Statistic α)} :
    (∀ s ∈ children, IsNew s) → IsNew (.group name children)

theorem settleAll_eq_self {ss : List (Statistic α)} (h : ∀ s ∈ ss, s.settle = s) :
    settleAll ss = ss := by
  induction ss with
  | nil => rfl
  | cons s rest ih =>
    obtain ⟨hfirst, hrest⟩ := List.forall_mem_cons.1 h
    rw [settleAll, hfirst, ih hrest]

theorem IsNew.settle_eq {s : Statistic α} (h : s.IsNew) : s.settle = s := by
  induction h with
  | single hm => rw [settle, hm.settle_eq]
  | group _ ih => rw [settle, settleAll_eq_self ih]

/-- Use a statistic on lists of routes, one after the other, and settle it some more times. -/
def use (s : Statistic α) (lists : List (List AuditedRoute)) (extra : Nat) : Statistic α :=
  settle^[extra] (lists.foldl aggregate s)

theorem settle_aggregate (s : Statistic α) (routes : List AuditedRoute) :
    (s.aggregate routes).settle = s.aggregate routes := by
  rw [aggregate_eq_onMeasures, settle_eq_onMeasures, onMeasures_onMeasures]
  simp only [Measure.settle_aggregate]

theorem aggregate_aggregate (s : Statistic α) (first second : List AuditedRoute) :
    (s.aggregate first).aggregate second = s.aggregate (first ++ second) := by
  rw [aggregate_eq_onMeasures, aggregate_eq_onMeasures s first, aggregate_eq_onMeasures s,
    onMeasures_onMeasures]
  simp only [Measure.aggregate_aggregate]

/-- However the routes are cut into lists, what is settled is settled from all of them. -/
theorem settle_foldl_aggregate (s : Statistic α) (lists : List (List AuditedRoute)) :
    (lists.foldl aggregate s).settle = s.aggregate lists.flatten := by
  induction lists generalizing s with
  | nil => rfl
  | cons routes lists ih =>
    rw [List.foldl_cons, ih, aggregate_aggregate, List.flatten_cons]

theorem use_eq_aggregate {s : Statistic α} {lists : List (List AuditedRoute)} {extra : Nat}
    (h : s.settle = s ∨ lists ≠ [] ∨ 0 < extra) :
    s.use lists extra = s.aggregate lists.flatten := by
  have hall := settle_foldl_aggregate s lists
  have hfixed : ∀ n, settle^[n] (s.aggregate lists.flatten) = s.aggregate lists.flatten :=
    Function.iterate_fixed (settle_aggregate s lists.flatten)
  cases extra with
  | succ n => rw [use, Function.iterate_succ_apply, hall, hfixed]
  | zero =>
    -- Nothing is settled at the end, so it has to be settled already.
    have hsettled : (lists.foldl aggregate s).settle = lists.foldl aggregate s := by
      rcases List.eq_nil_or_concat lists with rfl | ⟨before, last, rfl⟩
      · exact h.resolve_right (by simp)
      · rw [List.concat_eq_append, List.foldl_append]
        exact settle_aggregate _ last
    rw [use, Function.iterate_zero_apply, ← hsettled, hall]

/-- A tree of statistics that is used on several lists of routes, and settled any number of
times more, reports group by group and in order what each of its measures reports alone after
all the routes in one list.  The tree is new, or something is done to it at all. -/
theorem report_use (s : Statistic α) (lists : List (List AuditedRoute)) (extra : Nat)
    (h : s.IsNew ∨ lists ≠ [] ∨ 0 < extra) :
    (s.use lists extra).report =
      s.reportBy fun customName m => ((single customName m).aggregate lists.flatten).report := by
  rw [use_eq_aggregate (h.imp_left IsNew.settle_eq), report_aggregate]

/-- A group that holds a measure with a name, an empty group and a group of two measures. -/
def sample : Statistic Float :=
  .group "Scores" [.single (some "Least") .lowest, .group "None" [],
    .group "Middle" [.single none .median, .single none .average]]

theorem sample_isNew : sample.IsNew := by
  refine .group fun s hs => ?_
  simp only [List.mem_cons, List.not_mem_nil, or_false] at hs
  obtain rfl | rfl | rfl := hs
  · exact .single .lowest
  · exact .group (by simp)
  · refine .group fun s hs => ?_
    simp only [List.mem_cons, List.not_mem_nil, or_false] at hs
    obtain rfl | rfl := hs
    · exact .single .median
    · exact .single .average

/-- Two lists of routes with an empty one between them, and one settling too many. -/
theorem report_use_sample :
    sample.IsNew ∧
      (sample.use [[{ route := .stringable "a", benchmark := 3, score := 5 },
          { route := .stringable "b", benchmark := 3, score := -2 }], [],
        [{ route := .stringable "c", benchmark := 3, score := 5 }]] 1).report =
      sample.reportBy fun customName m =>
        ((single customName m).aggregate
          [{ route := .stringable "a", benchmark := 3, score := 5 },
            { route := .stringable "b", benchmark := 3, score := -2 },
            { route := .stringable "c", benchmark := 3, score := 5 }]).report :=
  ⟨sample_isNew, report_use sample _ 1 (.inl sample_isNew)⟩

end Statistic

end RouteAudit
