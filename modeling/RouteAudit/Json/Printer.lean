/-
  Json/Printer.lean --- the text of JSON values.

  WHAT THIS FILE IS FOR.  There are two layouts: compact, without any blanks, and
  indented by two blanks a level, one item or member a line.
-/
import RouteAudit.Json.Basic
import RouteAudit.Decimal.Shortest
import RouteAudit.Text.Digit

set_option autoImplicit false

namespace RouteAudit.Json

open RouteAudit.Decimal

/-! ## Scalars -/

/-- Numbers from 0.00001 up to 16 places before the point are written out; a power of
ten has its sign and two digits. -/
def numberLayout : Layout := ⟨some (-4), some 16, true, 2⟩

/-- The text of a number that is not whole by its type; infinities have none. -/
def floatText (x : Float) : String :=
  (numberLayout.textOf? x).getD "null"

/-- How a character is written inside a string. -/
def escapeChar (c : Char) : List Char :=
  if c = '"' then ['\\', '"']
  else if c = '\\' then ['\\', '\\']
  else if c = '\n' then ['\\', 'n']
  else if c = '\r' then ['\\', 'r']
  else if c = '\t' then ['\\', 't']
  else if c = '\x08' then ['\\', 'b']
  else if c = '\x0c' then ['\\', 'f']
  else if c.toNat < 0x20 then
    ['\\', 'u', '0', '0', Text.hexDigit (c.toNat / 16), Text.hexDigit (c.toNat % 16)]
  else [c]

/-- A string in quotes. -/
def quote (s : String) : String :=
  String.ofList ('"' :: s.toList.flatMap escapeChar ++ ['"'])

/-! ## Layouts -/

mutual

/-- The text without blanks. -/
def compact : Json → String
  | .null => "null"
  | .bool b => if b then "true" else "false"
  | .int n => toString n
  | .float x => floatText x
  | .string s => quote s
  | .array items => "[" ++ compactItems items ++ "]"
  | .object members => "\x7b" ++ compactMembers members ++ "\x7d"

/-- Items with commas between them. -/
def compactItems : List Json → String
  | [] => ""
  | [item] => item.compact
  | item :: rest => item.compact ++ "," ++ compactItems rest

/-- Members with commas between them. -/
def compactMembers : List (String × Json) → String
  | [] => ""
  | [(key, value)] => quote key ++ ":" ++ value.compact
  | (key, value) :: rest => quote key ++ ":" ++ value.compact ++ "," ++ compactMembers rest

end

/-- The start of a line at a depth. -/
def indent (depth : Nat) : String := String.ofList (List.replicate (2 * depth) ' ')

mutual

/-- The indented text at a depth. -/
def prettyAt (depth : Nat) : Json → String
  | .null => "null"
  | .bool b => if b then "true" else "false"
  | .int n => toString n
  | .float x => floatText x
  | .string s => quote s
  | .array [] => "[]"
  | .array (item :: rest) =>
    "[\n" ++ prettyItems (depth + 1) (item :: rest) ++ "\n" ++ indent depth ++ "]"
  | .object [] => "\x7b\x7d"
  | .object (first :: rest) =>
    "\x7b\n" ++ prettyMembers (depth + 1) (first :: rest) ++ "\n" ++ indent depth ++ "\x7d"

/-- Items one a line, with commas between them. -/
def prettyItems (depth : Nat) : List Json → String
  | [] => ""
  | [item] => indent depth ++ prettyAt depth item
  | item :: rest => indent depth ++ prettyAt depth item ++ ",\n" ++ prettyItems depth rest

/-- Members one a line, with commas between them. -/
def prettyMembers (depth : Nat) : List (String × Json) → String
  | [] => ""
  | [(key, value)] => indent depth ++ quote key ++ ": " ++ prettyAt depth value
  | (key, value) :: rest =>
    indent depth ++ quote key ++ ": " ++ prettyAt depth value ++ ",\n" ++ prettyMembers depth rest

end

/-- The indented text. -/
def pretty (value : Json) : String := prettyAt 0 value

end RouteAudit.Json
