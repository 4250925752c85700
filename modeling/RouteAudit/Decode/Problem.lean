/-
  Decode/Problem.lean --- why a value does not have the wanted shape.

  WHAT THIS FILE IS FOR.  Configuration, routes and reports are decoded from values of
  a data format.  A problem says what was found and what was wanted instead.
-/

set_option autoImplicit false

namespace RouteAudit.Decode

/-- Why a value cannot be decoded. -/
inductive Problem where
  /-- a value of another kind -/
  | type (found wanted : String)
  /-- a value of the right kind that is out of range -/
  | value (found wanted : String)
  /-- a list of the wrong length -/
  | length (found : Nat) (wanted : String)
  | missingField (name : String)
  | unknownField (name : String) (known : List String)
  | duplicateField (name : String)
  | unknownVariant (name : String) (known : List String)
  /-- a value that fits none of the forms of a type -/
  | noVariant (type : String)
  /-- anything a format itself complains about -/
  | format (reason : String)
  deriving DecidableEq, Repr, Inhabited

/-- A word of the data in backquotes. -/
def backquoted (s : String) : String := "\x60" ++ s ++ "\x60"

/-- The words that would have been right. -/
def expectedOneOf : List String → String
  | [] => "there are no fields"
  | [one] => "expected " ++ backquoted one
  | [one, other] => "expected " ++ backquoted one ++ " or " ++ backquoted other
  | several => "expected one of " ++ ", ".intercalate (several.map backquoted)

/-- The problem in words. -/
def Problem.message : Problem → String
  | .type found wanted => "invalid type: " ++ found ++ ", expected " ++ wanted
  | .value found wanted => "invalid value: " ++ found ++ ", expected " ++ wanted
  | .length found wanted => "invalid length " ++ toString found ++ ", expected " ++ wanted
  | .missingField name => "missing field " ++ backquoted name
  | .unknownField name known => "unknown field " ++ backquoted name ++ ", " ++ expectedOneOf known
  | .duplicateField name => "duplicate field " ++ backquoted name
  | .unknownVariant name known =>
    "unknown variant " ++ backquoted name ++ ", " ++ expectedOneOf known
  | .noVariant name => "data did not match any variant of untagged enum " ++ name
  | .format reason => reason

end RouteAudit.Decode
