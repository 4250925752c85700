/-
  Proofs/Expectation.lean --- what assertions about routes decide.

  WHAT THIS FILE IS FOR.  An assertion runs a whole audit and looks at who failed.  Here it
  is said without the audit: which routes are asserted, which of them fall short, and what
  is reported about those.

  HOW IT GOES.  The names of inputs are looked up in no table, so every input stands for at
  most one route (`RouteTable.resolveAll_empty`).  A check is then a verdict over the
  asserted routes whose score stays below the benchmark (`check_eq_verdict`).  For coverage
  a route without tests scores minus one, which is below a benchmark of zero although no
  test is asked for: there the assertion asks for one test (`score_lt_iff`).

  Main statement: `assertTested_eq_required`.
-/
import RouteAudit.Expectation
import RouteAudit.Proofs.Audit.Run

set_option autoImplicit false

namespace RouteAudit

open RouteAudit.Discovery RouteAudit.Ignore

/-! ## Inputs without a table -/

/-- The route that an input stands for when no routes are known.  The star stands for none. -/
def RouteInput.alone? : RouteInput → Option Route
  | .name text => if text = "*" then none else some (.stringable text)
  | .route found => some found

namespace RouteTable

theorem resolve_empty (input : RouteInput) : empty.resolve input = input.alone?.toList := by
  cases input with
  | route found => rfl
  | name text =>
    by_cases hstar : text = "*"
    · simp [resolve, RouteInput.alone?, hstar, empty]
    · simp [resolve, RouteInput.alone?, hstar, empty, get?]

theorem resolveAll_empty (inputs : List RouteInput) :
    empty.resolveAll inputs = inputs.filterMap RouteInput.alone? := by
  induction inputs with
  | nil => rfl
  | cons input rest ih =>
    have hcons : empty.resolveAll (input :: rest) =
        input.alone?.toList ++ empty.resolveAll rest := by
      rw [resolveAll, List.flatMap_cons, resolve_empty, resolveAll]
    rw [hcons, ih]
    cases halone : input.alone? with
    | none => rw [List.filterMap_cons_none halone, Option.toList_none, List.nil_append]
    | some route => rw [List.filterMap_cons_some halone, Option.toList_some, List.singleton_append]

end RouteTable

namespace Expectation

/-! ## Asserted routes -/

/-- The routes that are asserted, in the order of the inputs: those that satisfy all
conditions and have an identifier that no pattern matches. -/
def asserted (e : Expectation) (inputs : List RouteInput) : List Route :=
  (inputs.filterMap RouteInput.alone?).filter fun r =>
    (∀ condition ∈ e.conditions, condition r) ∧ r.identifier ≠ "" ∧
      ∀ pattern ∈ e.ignored, ¬ isMatch pattern r.identifier

theorem kept_candidates (e : Expectation) (inputs : List RouteInput) :
    Engine.kept e.ignored (e.candidates inputs) = e.asserted inputs := by
  unfold Engine.kept candidates asserted
  rw [RouteTable.resolveAll_empty, List.filter_filter]
  refine List.filter_congr fun r _ => ?_
  rw [Bool.eq_iff_iff]
  simp only [Bool.and_eq_true, decide_eq_true_iff, List.all_eq_true]
  constructor
  · rintro ⟨hkept, hconditions⟩
    exact ⟨hconditions, hkept⟩
  · rintro ⟨hconditions, hkept⟩
    exact ⟨hkept, hconditions⟩

theorem identifier_ne_of_mem_asserted {e : Expectation} {inputs : List RouteInput} {r : Route}
    (h : r ∈ e.asserted inputs) : r.identifier ≠ "" := by
  obtain ⟨_, hr⟩ := List.mem_filter.1 h
  exact (of_decide_eq_true hr).2.1

/-! ## Verdicts -/

/-- What is said about routes that fall short: nothing if there are none. -/
def verdict (e : Expectation) (header : String) (short : List String) : Except AuditError Unit :=
  if short = [] then .ok ()
  else .error (.assertionFailed (e.report.getD (listing header) short) short)

theorem verdict_eq_ok_iff {e : Expectation} {header : String} {short : List String} :
    e.verdict header short = .ok () ↔ short = [] := by
  unfold verdict
  split
  · rename_i hnil
    exact ⟨fun _ => hnil, fun _ => rfl⟩
  · rename_i hsome
    constructor
    · intro h
      cases h
    · intro hnil
      exact absurd hnil hsome

/-- Verdicts over different routes are different. -/
theorem verdict_inj {e : Expectation} {header : String} {short other : List String}
    (h : e.verdict header short = e.verdict header other) : short = other := by
  by_cases hshort : short = []
  · have hok : e.verdict header short = .ok () := verdict_eq_ok_iff.2 hshort
    rw [hshort, verdict_eq_ok_iff.1 (h.symm.trans hok)]
  · have hother : other ≠ [] := by
      intro hnil
      exact hshort (verdict_eq_ok_iff.1 (h.trans (verdict_eq_ok_iff.2 hnil)))
    rw [verdict, verdict, if_neg hshort, if_neg hother] at h
    injection h with herror
    injection herror

/-- The score that auditors give a route. -/
def total (auditors : List Auditor) (r : Route) : Int :=
  (({ route := r, benchmark := 0 } : AuditedRoute).audit auditors).score

section Check

variable (e : Expectation) (inputs : List RouteInput) (auditors : List Auditor) (benchmark : Int)

theorem audited_eq : e.audited inputs auditors benchmark = (e.asserted inputs).map fun route =>
    ({ route, benchmark } : AuditedRoute).audit auditors := by
  rw [← e.kept_candidates inputs]
  exact congrArg _ (Engine.filter_validates ⟨[], e.ignored⟩ (e.candidates inputs))

theorem map_displayName_failed :
    (Collection.failed (e.audited inputs auditors benchmark)).map (·.displayName) =
      ((e.asserted inputs).filter fun r => total auditors r < benchmark).map (·.identifier) := by
  rw [audited_eq, Collection.failed, Collection.withStatus, List.filter_map, List.map_map]
  congr 1
  refine List.filter_congr fun r _ => ?_
  rw [Bool.eq_iff_iff, Function.comp_apply, decide_eq_true_iff, decide_eq_true_iff]
  -- the score does not depend on the benchmark, so it is the total
  exact AuditedRoute.status_eq_failed_iff _

/-- A check is a verdict over the asserted routes whose score is below the benchmark. -/
theorem check_eq_verdict (header : String) :
    e.check inputs auditors benchmark header =
      e.verdict header
        (((e.asserted inputs).filter fun r => total auditors r < benchmark).map
          (·.identifier)) := by
  unfold check verdict
  rw [map_displayName_failed]
  cases hshort : ((e.asserted inputs).filter fun r => total auditors r < benchmark).map
      (·.identifier) with
  | nil => rfl
  | cons name names => rw [if_neg (List.cons_ne_nil name names)]

end Check

/-! ## One auditor with a penalty -/

/-- An auditor without patterns and conditions applies to every asserted route. -/
theorem total_single {rule : Rule} {penalty : Int} {r : Route} (h : r.identifier ≠ "") :
    total [{ rule, penalty }] r =
      if rule.count r = 0 then penalty else Word.clamp (rule.count r) := by
  have happlies : ({ rule, penalty } : Auditor).appliesTo r = true := by
    simp [Auditor.appliesTo, Matcher.validates, Matcher.isIgnored, Matcher.patterns, h]
  have hrun : ({ rule, penalty } : Auditor).run r =
      some (if rule.count r = 0 then penalty else Word.clamp (rule.count r)) := by
    simp only [Auditor.run, happlies, if_true, Auditor.score, Int.mul_one]
  unfold total AuditedRoute.audit
  simp only [List.map_cons, List.map_nil, List.foldr_cons, List.foldr_nil, hrun, Option.getD_some,
    Int.add_zero]

/-! ## Coverage -/

/-- The number of occurrences that is required in fact when so many are asked for: where none
is asked for, the penalty of a route without any still fails it. -/
def required (times : Int) : Int := if times = 0 then 1 else times

theorem score_lt_iff {times : Int} (h : Word.fits times = true) (n : Nat) :
    (if (n : Int) = 0 then -1 else Word.clamp n) < times ↔ (n : Int) < required times := by
  simp only [Word.fits, Bool.and_eq_true, decide_eq_true_iff] at h
  unfold required Word.clamp Word.least Word.greatest at *
  -- a count of zero or not, and a number asked for of zero or not
  split <;> split <;> omega

/-- The identifiers of the asserted routes that occur less often than so many times. -/
def short (e : Expectation) (inputs : List RouteInput) (occurrences : Tally String)
    (least : Int) : List String :=
  ((e.asserted inputs).filter fun r => occurrences.count r.identifier < least).map (·.identifier)

section Short

variable (e : Expectation) (inputs : List RouteInput) (occurrences : Tally String)

theorem short_eq_nil_iff (least : Int) :
    e.short inputs occurrences least = [] ↔
      ∀ r ∈ e.asserted inputs, least ≤ occurrences.count r.identifier := by
  unfold short
  rw [List.map_eq_nil_iff, List.filter_eq_nil_iff]
  refine forall₂_congr fun r _ => ?_
  rw [decide_eq_true_iff, Int.not_lt]

/-- What is required agrees with what is asked for, except that a route without occurrences
falls short of none. -/
theorem short_required_iff (times : Int) :
    e.short inputs occurrences (required times) = e.short inputs occurrences times ↔
      times ≠ 0 ∨ ∀ r ∈ e.asserted inputs, 0 < occurrences.count r.identifier := by
  by_cases htimes : times = 0
  · have hnone : e.short inputs occurrences 0 = [] :=
      (e.short_eq_nil_iff inputs occurrences 0).2 fun r _ => Int.natCast_nonneg _
    have hrequired : required times = 1 := if_pos htimes
    rw [hrequired, htimes, hnone, short_eq_nil_iff]
    constructor
    · intro hcovered
      exact .inr fun r hr => Int.natCast_pos.1 (hcovered r hr)
    · rintro (hne | hcovered) r hr
      · exact absurd rfl hne
      · exact Int.natCast_pos.2 (hcovered r hr)
  · have hrequired : required times = times := if_neg htimes
    rw [hrequired]
    exact iff_of_true rfl (.inl htimes)

/-- A check of coverage with a penalty of minus one is a verdict over the asserted routes with
fewer occurrences than required. -/
theorem check_testCoverage (table : Coverage.Table) {times : Int} (h : Word.fits times = true)
    (header : String) :
    e.check inputs [{ rule := .testCoverage table, penalty := -1 }] times header =
      e.verdict header (e.short inputs table.occurrences.1 (required times)) := by
  rw [check_eq_verdict, short]
  congr 2
  refine List.filter_congr fun r hr => ?_
  rw [total_single (identifier_ne_of_mem_asserted hr)]
  exact decide_eq_decide.2 (score_lt_iff h _)

end Short

end Expectation

namespace Workshop

variable {m : Type → Type} [Monad m]

/-- How often each route occurs in methods that were found. -/
def occurrences (w : Workshop m) (methods : List TestMethod) : Tally String :=
  (Coverage.Table.occurrences { methods, vocabulary := w.tests.vocabulary }).1

/-- The rule for coverage counts the occurrences in the methods that are discovered. -/
theorem rule_testCoverage (w : Workshop m) :
    w.rule "test_coverage" [] = (do
      let methods ← discover w.tests w.source
      return .testCoverage { methods, vocabulary := w.tests.vocabulary }) := by
  have hkind : normalKind "test_coverage" = "test_coverage" := by decide
  unfold rule
  simp only [hkind]
  rfl

end Workshop

namespace Expectation

variable {m : Type → Type} [Monad m] [LawfulMonad m]

/-- The verdict over methods that were found, if each asserted route is to occur in them so many
times. -/
def coverageVerdict (e : Expectation) (w : Workshop m) (inputs : List RouteInput)
    (methods : List TestMethod) (least : Int) : Except AuditError Unit :=
  e.verdict "The following routes appear to be missing test coverage:"
    (e.short inputs (w.occurrences methods) least)

/-- An assertion about coverage discovers the tests and gives a verdict over their methods. -/
theorem assertTested_eq (e : Expectation) (w : Workshop m) (inputs : List RouteInput)
    {times : Int} (h : Word.fits times = true) :
    e.assertTested w inputs times = (do
      let methods ← discover w.tests w.source
      MonadExcept.ofExcept (e.coverageVerdict w inputs methods (required times))) := by
  unfold assertTested
  rw [Workshop.rule_testCoverage, bind_assoc]
  refine congrArg _ (funext fun methods => ?_)
  have hcheck : e.check inputs
      [{ rule := .testCoverage { methods, vocabulary := w.tests.vocabulary }, penalty := -1 }]
      times "The following routes appear to be missing test coverage:" =
        e.coverageVerdict w inputs methods (required times) := e.check_testCoverage inputs _ h _
  rw [pure_bind]
  dsimp only
  rw [hcheck]
  cases e.coverageVerdict w inputs methods (required times) with
  | ok => rfl
  | error failure => rfl

/-- An assertion about coverage succeeds if and only if every asserted route occurs as often as
required, and otherwise reports those that do not, in their order.  Required is the number of
times that is asked for, but one where none is asked for: the verdict is then the one over the
number asked for only if every asserted route occurs at all. -/
theorem assertTested_eq_required (e : Expectation) (w : Workshop m) (inputs : List RouteInput)
    {times : Int} (h : Word.fits times = true) :
    e.assertTested w inputs times = (do
      let methods ← discover w.tests w.source
      MonadExcept.ofExcept (e.coverageVerdict w inputs methods (required times))) ∧
    ∀ methods : List TestMethod,
      (∀ least, e.coverageVerdict w inputs methods least = .ok () ↔
        ∀ r ∈ e.asserted inputs, least ≤ (w.occurrences methods).count r.identifier) ∧
      (e.coverageVerdict w inputs methods (required times) =
          e.coverageVerdict w inputs methods times ↔
        times ≠ 0 ∨ ∀ r ∈ e.asserted inputs, 0 < (w.occurrences methods).count r.identifier) := by
  refine ⟨e.assertTested_eq w inputs h, fun methods => ⟨fun least => ?_, ?_⟩⟩
  · exact verdict_eq_ok_iff.trans (e.short_eq_nil_iff inputs _ least)
  · rw [← short_required_iff]
    exact ⟨verdict_inj, fun hshort => congrArg (e.verdict _) hshort⟩

/-- A workshop with one file of tests, which covers one route. -/
def sampleWorkshop : Workshop Id where
  tests := { baseClass := "Test" }
  source := .ofList [(⟨"User.php"⟩, some
    "<?php class User extends Test\x7b#[CoversRoute('user.index')]function all():void\x7b\x7d\x7d")]

/-- An expectation that leaves out some routes by a pattern and one by a condition. -/
def sampleExpectation : Expectation where
  ignored := ["api*"]
  conditions := [(·.uri ≠ "home")]

/-- The names of routes, of which one is covered and one is given twice. -/
def sampleInputs : List RouteInput :=
  ["user.show", "*", "user.index", "home", "", "api.users", "user.show"].map .name

theorem assertTested_sample :
    Word.fits 1 = true ∧
      ((sampleExpectation.assertTested sampleWorkshop sampleInputs 1).run.run {}).1 =
        .error (.assertionFailed
          "The following routes appear to be missing test coverage:\n\tuser.show\n\tuser.show"
          ["user.show", "user.show"]) := by
  have hfits : Word.fits 1 = true := by decide
  obtain ⟨heq, -⟩ := assertTested_eq_required sampleExpectation sampleWorkshop sampleInputs hfits
  refine ⟨hfits, ?_⟩
  rw [heq]
  decide +kernel

/-- A route that no test covers is reported although it is to occur no times. -/
theorem assertTested_zero_times :
    let e : Expectation := {}
    let inputs : List RouteInput := [.name "user.show"]
    e.asserted inputs = [.stringable "user.show"] ∧
      (∀ methods, ∀ r ∈ e.asserted inputs,
        (0 : Int) ≤ (sampleWorkshop.occurrences methods).count r.identifier) ∧
      ((discover sampleWorkshop.tests sampleWorkshop.source).run.run {}).1.toOption.map
        (·.map (·.name)) = some ["all"] ∧
      ((e.assertTested sampleWorkshop inputs 0).run.run {}).1 =
        .error (.assertionFailed
          "The following routes appear to be missing test coverage:\n\tuser.show"
          ["user.show"]) := by
  intro e inputs
  have hfits : Word.fits 0 = true := by decide
  refine ⟨by decide, fun _ _ _ => Int.natCast_nonneg _, ?_⟩
  rw [assertTested_eq e sampleWorkshop inputs hfits]
  decide +kernel

end Expectation

end RouteAudit
