/-
  Proofs/Audit/Collection.lean --- sorted routes.

  WHAT THIS FILE IS FOR.  Sorting loses and invents no route.  In either direction the
  routes stand in the order of their scores, and those with one score in the ascending order
  of their names: what decides between two routes is a total preorder.

  Main statement: `pairwise_sort`.
-/
import RouteAudit.Audit.Collection

set_option autoImplicit false

namespace RouteAudit.Collection

theorem sort_perm (order : Order) (routes : List AuditedRoute) :
    (sort order routes).Perm routes := List.mergeSort_perm routes _

/-! ## What may stand before what -/

theorem Order.allows_total (order : Order) (a b : Int) :
    order.allows a b = true ∨ order.allows b a = true := by
  cases order <;> simp only [allows, decide_eq_true_eq] <;> omega

theorem Order.allows_refl (order : Order) (a : Int) : order.allows a a = true :=
  (order.allows_total a a).elim id id

theorem Order.allows_trans {order : Order} {a b c : Int} (hab : order.allows a b = true)
    (hbc : order.allows b c = true) : order.allows a c = true := by
  cases order <;> simp only [allows, decide_eq_true_eq] at * <;> omega

theorem Order.eq_of_allows {order : Order} {a b : Int} (hab : order.allows a b = true)
    (hba : order.allows b a = true) : a = b := by
  cases order <;> simp only [allows, decide_eq_true_eq] at * <;> omega

/-- A route may stand before another one if its score may, and with the same score if its
name is not greater. -/
theorem mayPrecede_iff {order : Order} {a b : AuditedRoute} :
    mayPrecede order a b = true ↔
      order.allows a.score b.score = true ∧
        (a.score = b.score → a.displayName ≤ b.displayName) := by
  unfold mayPrecede
  by_cases hscore : a.score = b.score
  · simp only [hscore, order.allows_refl, if_true, decide_eq_true_eq, String.not_lt, true_and,
      forall_const]
  · simp only [hscore, if_false, false_implies, and_true]

theorem mayPrecede_total (order : Order) (a b : AuditedRoute) :
    (mayPrecede order a b || mayPrecede order b a) = true := by
  rw [Bool.or_eq_true, mayPrecede_iff, mayPrecede_iff]
  by_cases hscore : a.score = b.score
  · have hself : order.allows b.score b.score = true := order.allows_refl b.score
    rw [hscore]
    exact (String.le_total a.displayName b.displayName).imp (fun h => ⟨hself, fun _ => h⟩)
      fun h => ⟨hself, fun _ => h⟩
  · exact (order.allows_total a.score b.score).imp (fun h => ⟨h, fun heq => absurd heq hscore⟩)
      fun h => ⟨h, fun heq => absurd heq.symm hscore⟩

theorem mayPrecede_trans (order : Order) (a b c : AuditedRoute)
    (hab : mayPrecede order a b = true) (hbc : mayPrecede order b c = true) :
    mayPrecede order a c = true := by
  rw [mayPrecede_iff] at *
  obtain ⟨hab, hname⟩ := hab
  obtain ⟨hbc, hname'⟩ := hbc
  refine ⟨Order.allows_trans hab hbc, fun heq => ?_⟩
  -- With one score at both ends there is only one score between them.
  rw [← heq] at hbc
  have hsame := Order.eq_of_allows hab hbc
  exact String.le_trans (hname hsame) (hname' (hsame.symm.trans heq))

/-! ## Sorting -/

/-- Sorted routes stand in the order of their scores, and with one score in the ascending
order of their names. -/
theorem pairwise_sort (order : Order) (routes : List AuditedRoute) :
    (sort order routes).Pairwise fun a b =>
      order.allows a.score b.score = true ∧
        (a.score = b.score → a.displayName ≤ b.displayName) := by
  have hsorted := List.pairwise_mergeSort (mayPrecede_trans order) (mayPrecede_total order) routes
  exact hsorted.imp mayPrecede_iff.1

end RouteAudit.Collection
