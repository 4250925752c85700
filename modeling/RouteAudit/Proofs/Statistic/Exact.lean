/-
  Proofs/Statistic/Exact.lean --- statistics without rounding.

  WHAT THIS FILE IS FOR.  Over the rational numbers a statistic is computed as it is over
  floating-point numbers, operation by operation, and none of them rounds.  The running mean
  is then what its name says: times the number of scores it is their sum (`nextMean_mul`).
-/
import Mathlib.Algebra.Field.Rat
import Mathlib.Algebra.Order.Ring.Rat
import Mathlib.Tactic.Positivity
import Mathlib.Tactic.Ring
import RouteAudit.Statistic.Measure

set_option autoImplicit false

namespace RouteAudit

instance : Number ℚ where
  ofInt n := n
  isLess x y := decide (x < y)

theorem number_eq_cast (n : Int) : (number n : ℚ) = n := rfl

theorem percentage_eq (part whole : Nat) : (percentage part whole : ℚ) = part / whole * 100 := by
  rw [percentage, number_eq_cast, number_eq_cast, number_eq_cast, Int.cast_natCast,
    Int.cast_natCast, Int.cast_ofNat]

namespace Measure

theorem nextMean_eq (visited : Nat) (mean : ℚ) (score : Int) :
    nextMean visited mean score = (mean * visited + score) / (visited + 1) := by
  rw [nextMean, number_eq_cast, number_eq_cast, number_eq_cast, Int.cast_natCast, Int.cast_one]

/-- The next mean makes up for the score that comes in. -/
theorem nextMean_mul (visited : Nat) (mean : ℚ) (score : Int) :
    nextMean visited mean score * (visited + 1) = mean * visited + score := by
  rw [nextMean_eq]
  have hpos : (visited : ℚ) + 1 ≠ 0 := by positivity
  exact div_mul_cancel₀ _ hpos

theorem nextMean_comm (visited : Nat) (mean : ℚ) (a b : Int) :
    nextMean (visited + 1) (nextMean visited mean a) b =
      nextMean (visited + 1) (nextMean visited mean b) a := by
  rw [nextMean_eq (visited + 1), nextMean_eq (visited + 1), Nat.cast_succ, nextMean_mul,
    nextMean_mul]
  ring

end Measure

end RouteAudit
