/-
  Yaml/Scalar.lean --- what a bare word of YAML stands for.

  WHAT THIS FILE IS FOR.  A scalar without quotes is null, a truth value, a number, or
  else a string.  Whole numbers are decimal, or hexadecimal, octal or binary behind a
  mark; decimal ones do not start with a zero that could be left out.
-/
import RouteAudit.Decode.Problem
import RouteAudit.Text.Digit
import RouteAudit.Word
import RouteAudit.Yaml.Basic

set_option autoImplicit false

namespace RouteAudit.Yaml

open RouteAudit.Decode

/-! ## Words -/

/-- Whether a word stands for null. -/
def isNullWord (word : String) : Bool := ["", "~", "null", "Null", "NULL"].contains word

/-- The truth value of a word. -/
def boolWord? (word : String) : Option Bool :=
  if ["true", "True", "TRUE"].contains word then some true
  else if ["false", "False", "FALSE"].contains word then some false
  else none

/-! ## Whole numbers -/

/-- Whether digits start with a zero that could be left out. -/
def hasSpareZero (digits : List Char) : Bool :=
  1 < digits.length && digits.head? == some '0' && digits.all Char.isDigit

/-- The number of digits without a sign. -/
def magnitude? : List Char → Option Nat
  | '0' :: 'x' :: digits => Text.numberIn? 16 digits
  | '0' :: 'o' :: digits => Text.numberIn? 8 digits
  | '0' :: 'b' :: digits => Text.numberIn? 2 digits
  | digits => if hasSpareZero digits then none else Text.numberIn? 10 digits

/-- The whole number of a word, of any size. -/
def wholeWord? (word : String) : Option Int :=
  match word.toList with
  | '+' :: digits => (magnitude? digits).map Int.ofNat
  | '-' :: digits => (magnitude? digits).map fun n => -(n : Int)
  | digits => (magnitude? digits).map Int.ofNat

/-! ## Other numbers -/

/-- The number of a significand and an exponent, unless it is too large. -/
def scientific? (significand : Nat) (exponent : Int) : Option Float :=
  let places : Int := (Nat.toDigits 10 significand).length + exponent
  if significand = 0 ∨ places < -330 then some 0.0
  else if 310 < places then none
  else
    let x := Float.ofScientific significand (exponent < 0) exponent.natAbs
    if x.isInf then none else some x

/-- The exponent behind its letter. -/
def exponent? (digits : List Char) : Option Int :=
  match digits with
  | '+' :: digits => (Text.numberIn? 10 digits).map Int.ofNat
  | '-' :: digits => (Text.numberIn? 10 digits).map fun n => -(n : Int)
  | digits => (Text.numberIn? 10 digits).map Int.ofNat

/-- The number of decimal digits with a point or an exponent, without a sign. -/
def decimal? (cs : List Char) : Option Float := do
  let (whole, rest) := cs.span Char.isDigit
  let (fraction, rest) :=
    match rest with
    | '.' :: rest => rest.span Char.isDigit
    | rest => ([], rest)
  let significand ← Text.numberIn? 10 (whole ++ fraction)
  let exponent ←
    match rest with
    | [] => some 0
    | 'e' :: rest | 'E' :: rest => exponent? rest
    | _ => none
  scientific? significand (exponent - fraction.length)

/-- The number of a word that is not whole by its form. -/
def floatWord? (word : String) : Option Float :=
  if [".nan", ".NaN", ".NAN"].contains word then some (0.0 / 0.0)
  else
    let positive? (cs : List Char) : Option Float :=
      if [".inf", ".Inf", ".INF"].contains (String.ofList cs) then some (1.0 / 0.0)
      else if hasSpareZero cs then none
      else decimal? cs
    match word.toList with
    | '+' :: cs => positive? cs
    | '-' :: cs => (positive? cs).map (-·)
    | cs => positive? cs

/-! ## Any word -/

/-- Whether a whole number is refused instead of rounded: those that 128 bits can hold,
with or without sign, are. -/
def isRefused (n : Int) : Bool :=
  -170141183460469231731687303715884105728 ≤ n && n ≤ 340282366920938463463374607431768211455

/-- What a word stands for.  Whole numbers of more than 64 bits are refused, those of
more than 128 bits are rounded. -/
def ofWord (word : String) : Except Problem Yaml :=
  if isNullWord word then .ok .null
  else
    match boolWord? word, wholeWord? word, floatWord? word with
    | some b, _, _ => .ok (.bool b)
    | none, some n, real =>
      if Word.least ≤ n ∧ n ≤ Word.greatestUnsigned then .ok (.int n)
      else if isRefused n then
        .error (.type ("integer " ++ backquoted (toString n)) "a number of 64 bits")
      else .ok ((real.map Yaml.float).getD (.string word))
    | none, none, some x => .ok (.float x)
    | none, none, none => .ok (.string word)

end RouteAudit.Yaml
