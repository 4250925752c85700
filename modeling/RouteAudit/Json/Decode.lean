/-
  Json/Decode.lean --- decoding records from JSON values.

  WHAT THIS FILE IS FOR.  Routes and reports are read from JSON.  A record is an object,
  or an array of the values of its fields in order.
-/
import RouteAudit.Decode.Format
import RouteAudit.Json.Printer
import RouteAudit.Json.Reader
import RouteAudit.Text.Visible
import RouteAudit.Word

set_option autoImplicit false

namespace RouteAudit.Json

open RouteAudit.Decode

/-- A value as a problem names it. -/
def described : Json → String
  | .null => "null"
  | .bool b => "boolean " ++ backquoted (if b then "true" else "false")
  | .int n => "integer " ++ backquoted (toString n)
  | .float x => "floating point " ++ backquoted (floatText x)
  | .string s => "string " ++ Text.showQuoted s
  | .array _ => "sequence"
  | .object _ => "map"

/-- A value of another kind than the wanted one. -/
def unlike {α : Type} (j : Json) (wanted : String) : Except Problem α :=
  .error (.type j.described wanted)

/-- How data are read from JSON values. -/
def format : Format Json where
  isNull
    | .null => true
    | _ => false
  bool
    | .bool b => .ok b
    | j => j.unlike "a boolean"
  int
    | .int n =>
      if Word.fits n then .ok n else .error (.value (Json.int n).described "i64")
    | j => j.unlike "i64"
  float
    | .int n => .ok (Float.ofInt n)
    | .float x => .ok x
    | j => j.unlike "f64"
  text wanted
    | .string s => .ok s
    | j => j.unlike wanted
  items
    | .array items => .ok items
    | j => j.unlike "a sequence"
  contents wanted
    | .object members => .ok (.named (members.map fun (key, value) => (.ok key, value)))
    | .array items => .ok (.listed items)
    | j => j.unlike wanted

/-! ## Lists of values -/

/-- A list of values.  What is no list is refused: an object as soon as it is seen, a
scalar once it is read. -/
def listReader : CharReader (List Json) := do
  match ← peekToken? with
  | none => failNext .endOfValue
  | some '{' => failHere (.shape (Problem.type "map" "a sequence").message)
  | some _ =>
    match ← value maxDepth with
    | .array items => return items
    | other => failHere (.shape (Problem.type other.described "a sequence").message)

/-- The values of the list that a text stands for. -/
def parseList (source : String) : Except String (List Json) :=
  run (do let items ← listReader; atEnd; return items) source

end RouteAudit.Json
