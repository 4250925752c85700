/-
  Yaml/Decode.lean --- decoding records from YAML values.

  WHAT THIS FILE IS FOR.  The configuration is decoded from YAML.  A record is a
  mapping; null counts as an empty mapping and as an empty list.
-/
import RouteAudit.Decode.Format
import RouteAudit.Word
import RouteAudit.Yaml.Basic

set_option autoImplicit false

namespace RouteAudit.Yaml

open RouteAudit.Decode RouteAudit.Decimal

/-- The text of a number in a problem: always written out. -/
def plainFloatText (x : Float) : String :=
  match (⟨none, none, false, 1⟩ : Layout).textOf? x with
  | some text => text
  | none => if x.isNaN then "NaN" else if x < 0.0 then "-inf" else "inf"

/-- A value as a problem names it. -/
def described : Yaml → String
  | .null => "unit value"
  | .bool b => "boolean " ++ backquoted (if b then "true" else "false")
  | .int n => "integer " ++ backquoted (toString n)
  | .float x => "floating point " ++ backquoted (plainFloatText x)
  | .string s => "string " ++ Text.showQuoted s
  | .list _ => "sequence"
  | .map _ => "map"

/-- A value of another kind than the wanted one. -/
def unlike {α : Type} (y : Yaml) (wanted : String) : Except Problem α :=
  .error (.type y.described wanted)

/-- The name of a field. -/
def fieldName : Yaml → Except Problem String
  | .string s => .ok s
  | y => y.unlike "field identifier"

/-- How data are read from YAML values. -/
def format : Format Yaml where
  isNull
    | .null => true
    | _ => false
  bool
    | .bool b => .ok b
    | y => y.unlike "a boolean"
  int
    | .int n =>
      if Word.fits n then .ok n
      else .error (.value (Yaml.int n).described "i64")
    | y => y.unlike "i64"
  float
    | .int n => .ok (Float.ofInt n)
    | .float x => .ok x
    | y => y.unlike "f64"
  text wanted
    | .string s => .ok s
    | y => y.unlike wanted
  items
    | .list items => .ok items
    | .null => .ok []
    | y => y.unlike "a sequence"
  contents wanted
    | .map entries => .ok (.named (entries.map fun (key, value) => (fieldName key, value)))
    | .null => .ok (.named [])
    | y => y.unlike wanted

end RouteAudit.Yaml
