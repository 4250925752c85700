/-
  Text/Casing.lean --- words in upper and lower case.

  WHAT THIS FILE IS FOR.  The kind of a statistic is its type in snake case, its name
  the kind as a sentence.  Both follow the case of Unicode, where one character may
  become several.
-/
import RouteAudit.Text.CaseTable

set_option autoImplicit false

namespace RouteAudit.Text

/-! ## Characters -/

/-- Whether a code point lies in a run. -/
def inRun (n : Nat) (run : Nat × Nat × Nat) : Bool :=
  run.1 ≤ n && n ≤ run.2.1 && (n - run.1) % run.2.2 == 0

/-- Whether a character has the property `Uppercase`. -/
def isUpper (c : Char) : Bool := upperRuns.any (inRun c.toNat)

/-- Whether a character has the property `Lowercase`. -/
def isLower (c : Char) : Bool := lowerRuns.any (inRun c.toNat)

/-- The characters that a character becomes by a table of long mappings and one of runs. -/
def mapCase (long : List (Nat × List Nat)) (runs : List (Nat × Nat × Nat × Int)) (c : Char) :
    List Char :=
  match long.lookup c.toNat with
  | some codes => codes.map Char.ofNat
  | none =>
    match runs.find? fun (first, last, step, _) => inRun c.toNat (first, last, step) with
    | some (_, _, _, shift) => [Char.ofNat (c.toNat + shift).toNat]
    | none => [c]

/-- The lower case of a character. -/
def toLower (c : Char) : List Char := mapCase toLowerLong toLowerRuns c

/-- The upper case of a character. -/
def toUpper (c : Char) : List Char := mapCase toUpperLong toUpperRuns c

/-! ## Words -/

/-- Whether a word starts at an upper-case character with these neighbours: behind a
lower-case character or digit, and at the last capital of several. -/
def startsWord (before : Char) (after : Option Char) : Bool :=
  isLower before || before.isDigit || (isUpper before && after.any isLower)

/-- The characters in lower case, with a bar before every word but the first. -/
def snakeChars : Option Char → List Char → List Char
  | _, [] => []
  | before, c :: rest =>
    let bar := if isUpper c && before.any (startsWord · rest.head?) then ['_'] else []
    bar ++ toLower c ++ snakeChars (some c) rest

/-- A name in snake case. -/
def snakeCase (name : String) : String := String.ofList (snakeChars none name.toList)

/-- A kind as a sentence: blanks for bars, and a capital at the start. -/
def sentenceCase (kind : String) : String :=
  match kind.toList.map fun c => if c = '_' then ' ' else c with
  | [] => ""
  | c :: rest => String.ofList (toUpper c ++ rest)

end RouteAudit.Text
