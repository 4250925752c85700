/-
  Word.lean --- the range of whole numbers of 64 bits with sign.

  WHAT THIS FILE IS FOR.  Scores, weights and limits are whole numbers in this range.
  What would leave it stays at its end; a text that would is refused.
-/

set_option autoImplicit false

namespace RouteAudit.Word

/-- The least number of the range: two to the power of 63, negated. -/
def least : Int := -9223372036854775808

/-- The greatest number of the range. -/
def greatest : Int := 9223372036854775807

/-- The greatest number of 64 bits without sign. -/
def greatestUnsigned : Nat := 18446744073709551615

/-- Whether a number lies in the range. -/
def fits (n : Int) : Bool := least ≤ n && n ≤ greatest

/-- The number of the range that is nearest. -/
def clamp (n : Int) : Int := max least (min n greatest)

theorem clamp_of_fits {n : Int} (h : fits n = true) : clamp n = n := by
  simp only [fits, Bool.and_eq_true, decide_eq_true_eq] at h
  unfold clamp
  omega

theorem clamp_mono {m n : Int} (h : m ≤ n) : clamp m ≤ clamp n := by
  unfold clamp
  omega

/-- A cap that lies in the range may as well be put on before a number is brought into it. -/
theorem min_clamp {limit : Int} (h : fits limit = true) (n : Int) :
    min (clamp n) limit = clamp (min limit n) := by
  simp only [fits, Bool.and_eq_true, decide_eq_true_eq] at h
  unfold clamp
  omega

/-! ## Numbers in words -/

/-- Why a text is no number of the range. -/
inductive Fault where
  | empty
  | notADigit
  | tooLarge
  | tooSmall
  deriving DecidableEq, Repr, Inhabited

/-- The fault in words. -/
def Fault.message : Fault → String
  | .empty => "cannot parse integer from empty string"
  | .notADigit => "invalid digit found in string"
  | .tooLarge => "number too large to fit in target type"
  | .tooSmall => "number too small to fit in target type"

/-- Take further digits into a number; the first place at which something is wrong
decides. -/
def takeDigits (isNegative : Bool) : Int → List Char → Except Fault Int
  | n, [] => .ok n
  | n, c :: rest =>
    if !c.isDigit then .error .notADigit
    else
      let digit : Int := c.toNat - '0'.toNat
      let next := 10 * n + if isNegative then -digit else digit
      if fits next then takeDigits isNegative next rest
      else .error (if isNegative then .tooSmall else .tooLarge)

/-- The number that a text writes in digits, with or without a sign. -/
def parse (text : String) : Except Fault Int :=
  match text.toList with
  | [] => .error .empty
  | ['+'] | ['-'] => .error .notADigit
  | '+' :: digits => takeDigits false 0 digits
  | '-' :: digits => takeDigits true 0 digits
  | digits => takeDigits false 0 digits

end RouteAudit.Word
