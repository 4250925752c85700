/-
  Yaml/Basic.lean --- YAML values.

  WHAT THIS FILE IS FOR.  The configuration is a YAML value.  The keys of a mapping may
  be any values, and their order counts.

  WHAT IS LEFT OUT.  A value of YAML may carry a tag.  No setting asks for one, and there
  are no values with tags here; nothing is said of configurations that contain any.
-/
import RouteAudit.Decimal.Shortest
import RouteAudit.Text.Visible

set_option autoImplicit false

namespace RouteAudit

/-- A YAML value. -/
inductive Yaml where
  | null
  | bool (value : Bool)
  | int (value : Int)
  | float (value : Float)
  | string (value : String)
  | list (items : List Yaml)
  | map (entries : List (Yaml × Yaml))
  deriving Repr, Inhabited, BEq

namespace Yaml

open RouteAudit.Decimal

/-! ## Numbers -/

/-- Numbers from 0.00001 up to 16 places before the point are written out. -/
def numberLayout : Layout := ⟨some (-4), some 16, false, 1⟩

/-- The text of a number that is not whole by its type. -/
def floatText (x : Float) : String :=
  match numberLayout.textOf? x with
  | some text => text
  | none => if x.isNaN then ".nan" else if x < 0.0 then "-.inf" else ".inf"

/-! ## Values by their constructors -/

mutual

/-- The value with the names of its constructors. -/
def shown : Yaml → String
  | .null => "Null"
  | .bool b => "Bool(" ++ (if b then "true" else "false") ++ ")"
  | .int n => "Number(" ++ toString n ++ ")"
  | .float x => "Number(" ++ floatText x ++ ")"
  | .string s => "String(" ++ Text.showQuoted s ++ ")"
  | .list items => "Sequence [" ++ ", ".intercalate (shownItems items) ++ "]"
  | .map entries => "Mapping \x7b" ++ ", ".intercalate (shownEntries entries) ++ "\x7d"

/-- The items of a list, each with the names of its constructors. -/
def shownItems : List Yaml → List String
  | [] => []
  | item :: rest => item.shown :: shownItems rest

/-- The entries of a mapping; keys that are scalars stand for themselves. -/
def shownEntries : List (Yaml × Yaml) → List String
  | [] => []
  | (key, value) :: rest => (key.shownKey ++ ": " ++ value.shown) :: shownEntries rest

/-- The key of an entry. -/
def shownKey : Yaml → String
  | .bool b => if b then "true" else "false"
  | .int n => toString n
  | .float x => floatText x
  | .string s => Text.showQuoted s
  | .null => "Null"
  | .list items => "Sequence [" ++ ", ".intercalate (shownItems items) ++ "]"
  | .map entries => "Mapping \x7b" ++ ", ".intercalate (shownEntries entries) ++ "\x7d"

end

end Yaml

end RouteAudit
