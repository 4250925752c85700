/-
  Decimal/Shortest.lean --- the fewest decimal digits that read back.

  WHAT THIS FILE IS FOR.  A report holds numbers as text.  The digits written are the
  fewest that still lie nearer to the number than to any other one; of several such,
  the nearest.

  METHOD.  For one digit, two digits, and so on, the two neighbours of the number on
  the grid of that many digits are tested against the interval of reals that round to
  it.  Seventeen digits always suffice.
-/
import RouteAudit.Decimal.Binary

set_option autoImplicit false

namespace RouteAudit.Decimal

/-! ## Digits -/

/-- Digits and the power of ten of the last one. -/
structure Digits where
  value : Nat
  exponent : Int
  deriving DecidableEq, Repr, Inhabited

/-- The decimal digits of a natural number. -/
def digitChars (n : Nat) : List Char := Nat.toDigits 10 n

/-- Leave out zeros at the end, at most so many. -/
def Digits.strip : Nat → Digits → Digits
  | 0, d => d
  | fuel + 1, d =>
    if d.value ≠ 0 ∧ d.value % 10 = 0 then strip fuel ⟨d.value / 10, d.exponent + 1⟩ else d

/-! ## The interval of a number -/

/-- The reals that round to a number, and the number itself. -/
structure Interval where
  low : Fraction
  value : Fraction
  high : Fraction
  /-- whether the ends belong to it -/
  isClosed : Bool

/-- The interval of a positive number. -/
def Interval.of (x : Binary) : Interval :=
  let atBoundary := x.m == leadingBit && x.q > -1074
  ⟨.scale (4 * x.m - if atBoundary then 1 else 2) (x.q - 2), .scale (4 * x.m) (x.q - 2),
    .scale (4 * x.m + 2) (x.q - 2), x.m % 2 == 0⟩

/-- Whether `d * 10 ^ e` lies in the interval. -/
def Interval.holds (i : Interval) (d : Nat) (e : Int) : Bool :=
  let point := (⟨d, 1, Nat.one_pos⟩ : Fraction).shift e
  if i.isClosed then i.low.le point && point.le i.high
  else i.low.lt point && point.lt i.high

/-! ## The search -/

/-- How many decimal places come before the point, at most so many steps below zero:
the `k` with `10 ^ (k - 1) ≤ x < 10 ^ k`. -/
def places (fuel : Nat) (x : Fraction) : Int :=
  if x.den ≤ x.num then (digitChars x.floor).length
  else
    match fuel with
    | 0 => 0
    | fuel + 1 => places fuel (x.shift 1) - 1

/-- The digits at the grid of `10 ^ e`, if a neighbour on it lies in the interval. -/
def Interval.atGrid? (i : Interval) (e : Int) : Option Digits :=
  let scaled := i.value.shift (-e)
  let below := scaled.floor
  match i.holds below e && below != 0, i.holds (below + 1) e with
  | true, true => some ⟨scaled.round, e⟩
  | true, false => some ⟨below, e⟩
  | false, true => some ⟨below + 1, e⟩
  | false, false => none

/-- The first grid with a hit, from coarse to fine. -/
def Interval.search (i : Interval) : Nat → Int → Digits
  | 0, e => ⟨(i.value.shift (-e)).round, e⟩
  | more + 1, e =>
    match i.atGrid? e with
    | some found => found
    | none => search i more (e - 1)

/-- The shortest digits of a number that is not zero, without its sign. -/
def shortest (x : Binary) : Digits :=
  let i := Interval.of x
  (i.search 17 (places 400 i.value - 1)).strip 400

/-! ## The text -/

/-- How a number is written from its digits. -/
structure Layout where
  /-- numbers with fewer places before the point, counted below zero behind it, get a
  power of ten -/
  fewest : Option Int
  /-- and so do numbers with more places before the point -/
  most : Option Int
  /-- whether a power that is not negative has a plus sign -/
  hasPlus : Bool := false
  /-- the fewest digits of a power -/
  powerDigits : Nat := 1
  deriving DecidableEq, Repr, Inhabited

/-- Whether a number with so many places before the point is written out. -/
def Layout.isWritten (layout : Layout) (before : Int) : Bool :=
  layout.fewest.all (· ≤ before) && layout.most.all (before ≤ ·)

/-- The text of a power of ten, behind its letter. -/
def Layout.power (layout : Layout) (e : Int) : List Char :=
  let digits := digitChars e.natAbs
  let sign := if e < 0 then ['-'] else if layout.hasPlus then ['+'] else []
  sign ++ List.replicate (layout.powerDigits - digits.length) '0' ++ digits

/-- The text of digits: written out with a point, or with a power of ten where the
point would be too far away. -/
def Layout.text (layout : Layout) (d : Digits) : String :=
  let digits := digitChars d.value
  let count := digits.length
  let before : Int := count + d.exponent
  let chars :=
    if !layout.isWritten before then
      let mantissa := match digits with
        | c :: c' :: rest => c :: '.' :: c' :: rest
        | one => one
      mantissa ++ 'e' :: layout.power (before - 1)
    else if 0 ≤ d.exponent then digits ++ List.replicate d.exponent.toNat '0' ++ ['.', '0']
    else if 0 < before then digits.take before.toNat ++ '.' :: digits.drop before.toNat
    else '0' :: '.' :: List.replicate (-before).toNat '0' ++ digits
  String.ofList chars

/-- The text of a finite number; nothing for any other. -/
def Layout.textOf? (layout : Layout) (x : Float) : Option String :=
  (Binary.ofFloat? x).map fun b =>
    let sign := if b.isNegative then "-" else ""
    sign ++ layout.text (if b.m = 0 then ⟨0, 0⟩ else shortest b)

end RouteAudit.Decimal
