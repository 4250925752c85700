/-
  Statistic/Number.lean --- the numbers that statistics are computed in.

  WHAT THIS FILE IS FOR.  Statistics are computed in floating-point numbers, one
  operation after the other.  They are defined for any numbers with these operations, so
  that the same statistics can also be computed exactly.
-/

set_option autoImplicit false

namespace RouteAudit

/-- Numbers to compute statistics in. -/
class Number (α : Type) extends Add α, Sub α, Mul α, Div α where
  /-- the number for a whole number, or the nearest -/
  ofInt : Int → α
  isLess : α → α → Bool

/-- The number for a whole number, or the nearest. -/
abbrev number {α : Type} [Number α] (n : Int) : α := Number.ofInt n

instance : Number Float where
  ofInt := Float.ofInt
  isLess x y := x < y

/-- The share of a part in a whole, in percent. -/
def percentage {α : Type} [Number α] (part whole : Nat) : α :=
  number part / number whole * number 100

end RouteAudit
