/-
  Proofs/Expectation/Middleware.lean --- what the assertion about middleware decides.

  WHAT THIS FILE IS FOR.  An application asserts that its routes are guarded.  Such an
  assertion must not pass for a route that is not, so it is said here without rules,
  scores and benchmarks: which routes are asserted, when one of them is guarded, and what
  is reported about those that are not.

  HOW IT GOES.  The rule counts the middleware of a route that meets a wanted one, and it
  counts nothing exactly where no middleware does (`count_middleware_eq_zero_iff`).  The
  penalty of minus one is below the benchmark of zero and a count never is, so the routes
  that fail are those without a guard (`assertMiddleware_eq_verdict`).

  Main statement: `assertMiddleware_eq_ok_iff_guarded`.
-/
import RouteAudit.Proofs.Expectation

set_option autoImplicit false

namespace RouteAudit

/-! ## Guards -/

namespace Middleware

/-- A middleware meets a wanted one that has its resolver or its nickname, and of which it
has all attributes. -/
def Meets (m wanted : Middleware) : Prop :=
  (m.resolver = wanted.resolver ∨ m.nickname = wanted.nickname) ∧
    ∀ a ∈ wanted.attributes, a ∈ m.attributes

instance (m wanted : Middleware) : Decidable (m.Meets wanted) :=
  inferInstanceAs (Decidable (_ ∧ _))

theorem implements_iff_meets {m wanted : Middleware} :
    m.implements wanted = true ↔ m.Meets wanted := by
  simp only [implements, Meets, Bool.and_eq_true, Bool.or_eq_true, beq_iff_eq, List.all_eq_true,
    List.contains_iff_mem]

theorem implementsAny_iff_meets {m : Middleware} {wanted : List Middleware} :
    m.implementsAny wanted = true ↔ ∃ w ∈ wanted, m.Meets w := by
  simp only [implementsAny, List.any_eq_true, implements_iff_meets]

end Middleware

/-- A route is guarded if some middleware that it carries meets a wanted one. -/
def Route.IsGuarded (wanted : List Middleware) (r : Route) : Prop :=
  ∃ m ∈ r.middleware, ∃ w ∈ wanted, m.Meets w

instance (wanted : List Middleware) (r : Route) : Decidable (r.IsGuarded wanted) :=
  inferInstanceAs (Decidable (∃ _ ∈ _, ∃ _ ∈ _, _))

theorem Rule.count_middleware_eq_zero_iff {wanted : List Middleware} {r : Route} :
    (Rule.implementing wanted r).length = 0 ↔ ¬ r.IsGuarded wanted := by
  unfold Rule.implementing Route.IsGuarded
  rw [List.length_eq_zero_iff, List.filter_eq_nil_iff]
  simp only [Middleware.implementsAny_iff_meets, not_exists, not_and]

namespace Expectation

/-! ## Messages -/

/-- A listing is the header and, for each name, a line break, a tab and the name. -/
theorem listing_eq_append (header : String) (names : List String) :
    listing header names = header ++ String.join (names.map ("\n\t" ++ ·)) := by
  induction names generalizing header with
  | nil => rw [List.map_nil, String.join_nil, String.append_empty]; rfl
  | cons name names ih =>
    have hcons : listing header (name :: names) = listing (header ++ "\n\t" ++ name) names := rfl
    rw [hcons, ih, List.map_cons, String.join_cons]
    simp only [String.append_assoc]

/-! ## Unguarded routes -/

section Assertion

variable (e : Expectation) (inputs : List RouteInput) (wanted : List String)

/-- The identifiers of the asserted routes that are not guarded, in their order. -/
def unguarded : List String :=
  ((e.asserted inputs).filter fun r => ¬ r.IsGuarded (wanted.map Middleware.parse)).map
    (·.identifier)

theorem unguarded_eq_nil_iff :
    e.unguarded inputs wanted = [] ↔
      ∀ r ∈ e.asserted inputs, r.IsGuarded (wanted.map Middleware.parse) := by
  unfold unguarded
  rw [List.map_eq_nil_iff, List.filter_eq_nil_iff]
  refine forall₂_congr fun r _ => ?_
  rw [decide_eq_true_iff, not_not]

theorem assertMiddleware_eq_verdict :
    e.assertMiddleware inputs wanted =
      e.verdict "The following routes are missing the expected middleware:"
        (e.unguarded inputs wanted) := by
  have hfits : Word.fits 0 = true := by decide
  unfold assertMiddleware unguarded
  rw [check_eq_verdict]
  congr 2
  refine List.filter_congr fun r hr => ?_
  rw [total_single (identifier_ne_of_mem_asserted hr)]
  -- a benchmark of zero asks for one guard, as it asks for one test
  have hlt := score_lt_iff hfits (Rule.implementing (wanted.map Middleware.parse) r).length
  have hrequired : required 0 = 1 := if_pos rfl
  refine decide_eq_decide.2 (hlt.trans ?_)
  rw [← Rule.count_middleware_eq_zero_iff, hrequired]
  omega

/-- An assertion about middleware succeeds if and only if every asserted route is guarded by
one of the wanted middleware.  Otherwise it reports the asserted routes that are not, all of
them and in their order, with the message that the expectation has for them or else with a
listing of their names. -/
theorem assertMiddleware_eq_ok_iff_guarded :
    (e.assertMiddleware inputs wanted = .ok () ↔
      ∀ r ∈ e.asserted inputs, r.IsGuarded (wanted.map Middleware.parse)) ∧
    ((∃ r ∈ e.asserted inputs, ¬ r.IsGuarded (wanted.map Middleware.parse)) →
      let names := e.unguarded inputs wanted
      let message := match e.report with
        | some report => report names
        | none => "The following routes are missing the expected middleware:" ++
            String.join (names.map ("\n\t" ++ ·))
      e.assertMiddleware inputs wanted = .error (.assertionFailed message names)) := by
  rw [assertMiddleware_eq_verdict]
  refine ⟨verdict_eq_ok_iff.trans (e.unguarded_eq_nil_iff inputs wanted), ?_⟩
  rintro ⟨r, hr, hopen⟩ names message
  have hsome : e.unguarded inputs wanted ≠ [] := by
    intro hnil
    exact hopen ((e.unguarded_eq_nil_iff inputs wanted).1 hnil r hr)
  have hmessage : e.report.getD
      (listing "The following routes are missing the expected middleware:") names = message := by
    unfold message
    cases e.report with
    | none => exact listing_eq_append _ names
    | some report => rfl
  rw [verdict, if_neg hsome, hmessage]

/-- A guard needs all attributes of a wanted one; the star and ignored routes are not asserted. -/
example :
    let e : Expectation := { ignored := ["api*"] }
    let guarded : Route := { uri := "users", middleware := [.parse "web", .parse "auth:api, web"] }
    let half : Route := { uri := "posts", middleware := [.parse "auth:web"] }
    e.assertMiddleware [.route half, .name "*", .route guarded, .name "api.users", .route half]
        ["auth : api"] =
      .error (.assertionFailed
        "The following routes are missing the expected middleware:\n\tposts\n\tposts"
        ["posts", "posts"]) := by
  cbv

end Assertion

end Expectation

end RouteAudit
