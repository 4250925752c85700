/-
  Proofs/Audit/Run.lean --- what a run gives.

  WHAT THIS FILE IS FOR.  A run is described without the machinery of engines and auditors:
  from the routes, the calls that were made, and the rules.  Two layers of patterns leave
  routes out, one for the whole run and one for each auditor, and a route that an auditor
  does not apply to is told from one that it gives zero.

  HOW IT GOES.  The engine and the auditors are those of `Engine.setUp_eq` and
  `Draft.auditor_eq`.  One lemma then says which routes are kept and one which results an
  auditor gives to a kept route.  Another order of the auditors puts the results in that
  order, and the sum of the scores does not depend on it.

  Main statement: `run_setUp`.
-/
import Mathlib.Algebra.BigOperators.Group.List.Basic
import Mathlib.Algebra.Ring.Int.Defs
import RouteAudit.Proofs.Audit.Calls

set_option autoImplicit false

namespace RouteAudit

open RouteAudit.Ignore

/-! ## Sums in a word -/

namespace Word

/-- Add numbers to a start, one after another; nothing comes out once a sum leaves the
range. -/
def addUp? (start : Int) : List Int → Option Int
  | [] => some start
  | n :: ns => if fits (start + n) then addUp? (start + n) ns else none

theorem addUp?_eq_some {start : Int} {ns : List Int}
    (h : ∀ sum ∈ ns.scanl (· + ·) start, fits sum = true) :
    addUp? start ns = some (start + ns.sum) := by
  induction ns generalizing start with
  | nil => simp [addUp?]
  | cons n ns ih =>
    rw [List.scanl_cons] at h
    have hrest : ∀ sum ∈ ns.scanl (· + ·) (start + n), fits sum = true :=
      fun sum hsum => h sum (List.mem_cons_of_mem _ hsum)
    have hfits : fits (start + n) = true :=
      hrest _ (by cases ns <;> simp)
    rw [addUp?, if_pos hfits, ih hrest, List.sum_cons, Int.add_assoc]

end Word

/-! ## Items in another order -/

/-- The items at some places, in the order of the places. -/
def reorder {α : Type} (places : List Nat) (xs : List α) : List α :=
  places.filterMap (xs[·]?)

theorem reorder_map {α β : Type} (places : List Nat) (f : α → β) (xs : List α) :
    reorder places (xs.map f) = (reorder places xs).map f := by
  simp only [reorder, List.map_filterMap, List.getElem?_map]

theorem reorder_range {α : Type} (xs : List α) : reorder (List.range xs.length) xs = xs := by
  induction xs with
  | nil => rfl
  | cons x xs ih =>
    have hfirst : (x :: xs)[0]? = some x := rfl
    rw [reorder, List.length_cons, List.range_succ_eq_map, List.filterMap_cons_some hfirst,
      List.filterMap_map]
    exact congrArg (x :: ·) ih

theorem reorder_perm {α : Type} {places : List Nat} {xs : List α}
    (h : places.Perm (List.range xs.length)) : (reorder places xs).Perm xs :=
  calc (reorder places xs).Perm (reorder (List.range xs.length) xs) := h.filterMap _
    _ = xs := reorder_range xs

/-! ## One auditor at one route -/

namespace Draft

variable (d : Draft) (r : Route)

/-- A route that the auditor of a draft does not apply to: one of its last patterns matches,
or a condition fails. -/
def Rejects : Prop :=
  (∃ pattern ∈ d.patterns, isMatch pattern r.identifier) ∨ ∃ condition ∈ d.conditions, ¬ condition r

instance : Decidable (d.Rejects r) := inferInstanceAs (Decidable (_ ∨ _))

/-- What a draft's auditor is to give a route. -/
def expected : AuditorResult where
  auditor := d.auditor.summary
  result := if d.Rejects r then none else some (d.auditor.score (d.rule.count r))

variable {r}

theorem appliesTo_auditor (h : r.identifier ≠ "") :
    d.auditor.appliesTo r = true ↔ ¬ d.Rejects r := by
  simp [auditor_eq, Auditor.appliesTo, Matcher.validates, Matcher.isIgnored, Matcher.patterns,
    Rejects, h]

theorem run_auditor (h : r.identifier ≠ "") : d.auditor.run r = (d.expected r).result := by
  have hrule : d.auditor.rule = d.rule := by rw [auditor_eq]
  unfold Auditor.run expected
  by_cases hrejects : d.Rejects r
  · rw [if_neg (mt (d.appliesTo_auditor h).mp (not_not_intro hrejects)), if_pos hrejects]
  · rw [if_pos ((d.appliesTo_auditor h).mpr hrejects), if_neg hrejects, hrule]

end Draft

/-! ## All auditors at one route -/

namespace AuditedRoute

/-- What each auditor adds to the score, in order; one that does not apply adds nothing. -/
def gains (a : AuditedRoute) : List Int := a.results.map (·.result.getD 0)

/-- No sum on the way to the score leaves the range of a word. -/
def SumsFit (a : AuditedRoute) : Prop := ∀ sum ∈ a.gains.scanl (· + ·) 0, Word.fits sum = true

instance (a : AuditedRoute) : Decidable a.SumsFit := inferInstanceAs (Decidable (∀ _ ∈ _, _))

theorem sum_getD_result (results : List AuditorResult) :
    (results.map (·.result.getD 0)).sum = (results.filterMap (·.result)).sum := by
  induction results with
  | nil => rfl
  | cons r results ih =>
    rw [List.map_cons, List.sum_cons, ih]
    cases hr : r.result with
    | none => rw [List.filterMap_cons_none hr, Option.getD_none, Int.zero_add]
    | some n => rw [List.filterMap_cons_some hr, Option.getD_some, List.sum_cons]

/-- The outcome that drafts are to have at a route. -/
def expected (benchmark : Int) (drafts : List Draft) (route : Route) : AuditedRoute :=
  let results := drafts.map (·.expected route)
  { route, benchmark, results, score := (results.filterMap (·.result)).sum }

theorem audit_drafts {route : Route} (h : route.identifier ≠ "") (benchmark : Int)
    (drafts : List Draft) :
    ({ route, benchmark } : AuditedRoute).audit (drafts.map Draft.auditor) =
      expected benchmark drafts route := by
  have hresults : ((drafts.map Draft.auditor).map fun auditor =>
      (⟨auditor.summary, auditor.run route⟩ : AuditorResult)) = drafts.map (·.expected route) := by
    rw [List.map_map]
    refine List.map_congr_left fun d _ => ?_
    rw [Function.comp_apply, d.run_auditor h]
    rfl
  have hscore : ∀ results : List AuditorResult,
      results.foldr (fun r sum => r.result.getD 0 + sum) 0 = (results.filterMap (·.result)).sum :=
    fun results => by rw [← sum_getD_result, List.sum_eq_foldr, List.foldr_map]
  simp only [audit, expected, hresults, hscore]

theorem addUp?_gains {a : AuditedRoute} (hscore : a.score = (a.results.filterMap (·.result)).sum)
    (hfits : a.SumsFit) : Word.addUp? 0 a.gains = some a.score := by
  rw [Word.addUp?_eq_some hfits, Int.zero_add, hscore, gains, sum_getD_result]

/-- Drafts in another order have the same outcome, with the results in that order. -/
theorem expected_reorder {places : List Nat} {drafts : List Draft}
    (h : places.Perm (List.range drafts.length)) (benchmark : Int) (route : Route) :
    expected benchmark (reorder places drafts) route =
      { expected benchmark drafts route with
        results := reorder places (expected benchmark drafts route).results } := by
  have hsum : (((reorder places drafts).map (·.expected route)).filterMap (·.result)).sum =
      ((drafts.map (·.expected route)).filterMap (·.result)).sum :=
    (((reorder_perm h).map _).filterMap _).sum_eq
  simp only [expected, hsum, reorder_map]

theorem status_eq_failed_iff (a : AuditedRoute) : a.status = .failed ↔ a.score < a.benchmark := by
  unfold status
  split <;> simp_all

end AuditedRoute

/-! ## Runs -/

namespace Engine

/-- The routes that are to be audited if some patterns leave out routes: those that have an
identifier, which no pattern matches. -/
def kept (patterns : List String) (routes : List Route) : List Route :=
  routes.filter fun r => r.identifier ≠ "" ∧ ∀ pattern ∈ patterns, ¬ isMatch pattern r.identifier

theorem mem_kept {patterns : List String} {routes : List Route} {r : Route} :
    r ∈ kept patterns routes ↔
      r ∈ routes ∧ r.identifier ≠ "" ∧ ∀ pattern ∈ patterns, ¬ isMatch pattern r.identifier := by
  rw [kept, List.mem_filter, decide_eq_true_iff]

theorem filter_validates (m : Matcher) (routes : List Route) :
    routes.filter m.validates = kept m.patterns routes := by
  refine List.filter_congr fun r _ => Bool.eq_iff_iff.mpr ?_
  simp [Matcher.validates, Matcher.isIgnored]

theorem run_drafts (e : Engine) (drafts : List Draft) :
    e.run (drafts.map Draft.auditor) =
      (kept e.ignore.patterns e.routes).map (AuditedRoute.expected e.benchmark drafts) := by
  rw [run, filter_validates]
  refine List.map_congr_left fun route hroute => ?_
  obtain ⟨-, hidentifier, -⟩ := mem_kept.mp hroute
  exact AuditedRoute.audit_drafts hidentifier e.benchmark drafts

/-- A run gives each kept route its outcome, in order.  Another order of the auditors only
puts the results in that order. -/
theorem run_setUp (config : Config) (table : RouteTable) (inputs : List RouteInput)
    (calls : List Call) (drafts : List Draft) (places : List Nat)
    (hplaces : places.Perm (List.range drafts.length))
    (hfits : ∀ ds ∈ [drafts, reorder places drafts],
      ∀ a ∈ (setUp config table inputs calls).run (ds.map Draft.auditor), a.SumsFit) :
    let run (ds : List Draft) := (setUp config table inputs calls).run (ds.map Draft.auditor)
    let patterns := config.ignoredRoutes ++ lastGiven Call.patterns? calls []
    let benchmark := lastGiven Call.benchmark? calls config.benchmark
    run drafts =
        (kept patterns (table.resolveAll inputs)).map (AuditedRoute.expected benchmark drafts) ∧
      run (reorder places drafts) =
        (run drafts).map (fun a => { a with results := reorder places a.results }) ∧
      ∀ ds ∈ [drafts, reorder places drafts], ∀ a ∈ run ds,
        Word.addUp? 0 a.gains = some a.score ∧ (a.status = .failed ↔ a.score < benchmark) := by
  intro run patterns benchmark
  have hrun (ds : List Draft) : run ds =
      (kept patterns (table.resolveAll inputs)).map (AuditedRoute.expected benchmark ds) := by
    simp only [run, run_drafts, setUp_eq]
    rfl
  refine ⟨hrun drafts, ?_, fun ds hds a ha => ?_⟩
  · rw [hrun, hrun, List.map_map]
    exact List.map_congr_left fun route _ =>
      AuditedRoute.expected_reorder hplaces benchmark route
  · have hsums := hfits ds hds a ha
    rw [hrun] at ha
    obtain ⟨route, -, rfl⟩ := List.mem_map.mp ha
    exact ⟨AuditedRoute.addUp?_gains rfl hsums, AuditedRoute.status_eq_failed_iff _⟩

/-- Inputs, one of them twice, one without a name and one that is left out by default. -/
def sampleInputs : List RouteInput :=
  ["home", "telescope.index", "home", "", "api.users"].map fun name => .route (.stringable name)

/-- Calls of which the later ones count. -/
def sampleCalls : List Call := [.benchmark 9, .ignore ["api*"], .ignore ["admin*"], .benchmark 5]

/-- An auditor that gives six to all but the routes of an interface, and one that gives minus
two to the routes of the interface alone. -/
def sampleDrafts : List Draft :=
  [{ rule := ⟨"fixed", fun _ => 2⟩, calls := [.ignore ["home"], .weight 3, .ignore ["api*"]] },
    { rule := ⟨"none", fun _ => 0⟩, calls := [.penalty (-2), .when (·.uri ≠ "home")] }]

/-- The run of these calls for the sample inputs. -/
def sampleRun (drafts : List Draft) : List AuditedRoute :=
  (setUp {} .empty sampleInputs sampleCalls).run (drafts.map Draft.auditor)

theorem run_setUp_sample :
    [1, 0].Perm (List.range sampleDrafts.length) ∧
      (∀ ds ∈ [sampleDrafts, reorder [1, 0] sampleDrafts], ∀ a ∈ sampleRun ds, a.SumsFit) ∧
      (sampleRun sampleDrafts).map (fun a => (a.displayName, a.results.map (·.result), a.score)) =
        [("home", [some 6, none], 6), ("home", [some 6, none], 6),
          ("api.users", [none, some (-2)], -2)] ∧
      (sampleRun (reorder [1, 0] sampleDrafts)).map (·.results.map (·.result)) =
        [[none, some 6], [none, some 6], [some (-2), none]] ∧
      ∀ a ∈ sampleRun sampleDrafts, a.status = .failed ↔ a.score < 5 := by
  have hplaces : [1, 0].Perm (List.range sampleDrafts.length) := by decide
  have hfits : ∀ ds ∈ [sampleDrafts, reorder [1, 0] sampleDrafts],
      ∀ a ∈ sampleRun ds, a.SumsFit := by decide
  obtain ⟨hrun, hreordered, hscores⟩ :=
    run_setUp {} .empty sampleInputs sampleCalls sampleDrafts [1, 0] hplaces hfits
  refine ⟨hplaces, hfits, ?_, ?_, fun a ha => (hscores sampleDrafts (by simp) a ha).2⟩
  · exact (congrArg _ hrun).trans (by decide)
  · exact (congrArg _ hreordered).trans (by decide)

end Engine

end RouteAudit
