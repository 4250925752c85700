/-
  Decimal/Binary.lean --- the exact value of a binary floating-point number.

  WHAT THIS FILE IS FOR.  Numbers are written in decimal from their exact value.  A
  finite number is `m * 2 ^ q`, up to its sign; both printers, the shortest and the
  one with fixed places, work on the fraction that this gives.
-/

set_option autoImplicit false

namespace RouteAudit.Decimal

/-! ## Decoding -/

/-- A finite number: a sign and `m * 2 ^ q`. -/
structure Binary where
  isNegative : Bool
  m : Nat
  q : Int
  deriving DecidableEq, Repr, Inhabited

/-- The leading bit of a significand, which only very small numbers lack. -/
def leadingBit : Nat := 0x10000000000000

/-- The number that 64 bits stand for, if it is finite. -/
def Binary.ofBits? (bits : Nat) : Option Binary :=
  let isNegative := bits / leadingBit / 2048 % 2 == 1
  let exponent : Nat := bits / leadingBit % 2048
  let fraction : Nat := bits % leadingBit
  if exponent = 2047 then none
  else if exponent = 0 then some ⟨isNegative, fraction, -1074⟩
  else some ⟨isNegative, leadingBit + fraction, Int.ofNat exponent - 1075⟩

/-- The exact value of a float, if it is finite. -/
def Binary.ofFloat? (x : Float) : Option Binary :=
  Binary.ofBits? x.toBits.toNat

/-! ## Fractions -/

/-- A fraction of natural numbers that is not negative; the denominator is positive. -/
structure Fraction where
  num : Nat
  den : Nat
  den_pos : 0 < den := by decide
  deriving Repr

/-- `n * 2 ^ q`. -/
def Fraction.scale (n : Nat) (q : Int) : Fraction :=
  match q with
  | .ofNat k => ⟨n * Nat.pow 2 k, 1, Nat.one_pos⟩
  | .negSucc k => ⟨n, Nat.pow 2 (k + 1), Nat.two_pow_pos _⟩

/-- The fraction times `10 ^ e`. -/
def Fraction.shift (x : Fraction) (e : Int) : Fraction :=
  match e with
  | .ofNat k => ⟨x.num * Nat.pow 10 k, x.den, x.den_pos⟩
  | .negSucc k =>
    ⟨x.num, x.den * Nat.pow 10 (k + 1), Nat.mul_pos x.den_pos (Nat.pow_pos (by decide))⟩

/-- The greatest integer that is not greater. -/
def Fraction.floor (x : Fraction) : Nat := x.num / x.den

/-- The nearest integer; a half goes to the even neighbour. -/
def Fraction.round (x : Fraction) : Nat :=
  let low := x.num / x.den
  let twice := 2 * (x.num % x.den)
  if twice < x.den then low
  else if x.den < twice then low + 1
  else if low % 2 = 0 then low
  else low + 1

/-- Whether the fraction is smaller than another. -/
def Fraction.lt (x y : Fraction) : Bool := x.num * y.den < y.num * x.den

/-- Whether the fraction is at most another. -/
def Fraction.le (x y : Fraction) : Bool := x.num * y.den ≤ y.num * x.den

end RouteAudit.Decimal
