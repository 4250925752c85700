/-
  Decimal/Fixed.lean --- decimal text with a fixed number of places.
-/
import RouteAudit.Decimal.Binary

set_option autoImplicit false

namespace RouteAudit.Decimal

/-- The digits of a natural number, with zeros in front up to the given length. -/
def padded (length n : Nat) : List Char :=
  let digits := Nat.toDigits 10 n
  List.replicate (length - digits.length) '0' ++ digits

/-- The text of a finite number with so many places behind the point.  The exact value
is rounded; a half goes to the even neighbour, and the sign is kept on zero. -/
def fixedText (places : Nat) (x : Binary) : String :=
  let scaled := ((Fraction.scale x.m x.q).shift places).round
  let sign := if x.isNegative then ['-'] else []
  let unit := Nat.pow 10 places
  let whole := Nat.toDigits 10 (scaled / unit)
  let fraction := if places = 0 then [] else '.' :: padded places (scaled % unit)
  String.ofList (sign ++ whole ++ fraction)

/-- Whether a finite number is whole. -/
def Binary.isWhole (x : Binary) : Bool :=
  let value := Fraction.scale x.m x.q
  value.num % value.den == 0

end RouteAudit.Decimal
