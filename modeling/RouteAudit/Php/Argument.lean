/-
  Php/Argument.lean --- arguments, attributes, parameters and the elements of arrays.
-/
import RouteAudit.Php.Name

set_option autoImplicit false

namespace RouteAudit.Php

open RouteAudit.Syntax
open Reader

/-! ## Arguments -/

/-- An expression behind three dots. -/
def unpacking (g : Grammar) : Reader Piece := do
  let dots ← sign "..."
  return (dots.append (← g.expression 0)).other "variadic_unpacking"

/-- One argument, without its label.  Three dots alone stand for all arguments. -/
def argument (g : Grammar) : Reader Piece := do
  if (← atSign "...") && (← peekSecond).isSign ")" then
    return (← take).other "variadic_placeholder"
  let isLabelled := (← peek).kind == .word && (← peekSecond).isSign ":"
  let label ← if isLabelled then pure [← take, ← take] else pure []
  let reference := (← sign? "&").map (·.other "reference_modifier")
  let value ← if ← atSign "..." then unpacking g else g.expression 0
  let p ← Piece.ofList (label ++ reference.toList ++ [value])
  return p.node .argument

/-- The arguments of a call, with their parentheses. -/
def arguments (g : Grammar) : Reader Piece := do
  Piece.ofList (← bracketed "(" ")" (argument g))

/-- The arguments, if a parenthesis follows. -/
def arguments? (g : Grammar) : Reader (List Piece) := do
  return (← perhaps (·.isSign "(") (arguments g)).toList

/-! ## Attributes -/

/-- One attribute. -/
def oneAttribute (g : Grammar) : Reader Piece := do
  let called ← segments
  let given ← arguments? g
  return (called.join given).node (.marker (trimLeading called.text))

/-- The attributes in front of a declaration, in all their brackets. -/
def attributes (g : Grammar) : Reader (List Piece) :=
  many (·.isSign "#[") do Piece.ofList (← someBracketed "#[" "]" (oneAttribute g))

/-! ## Modifiers -/

/-- The production of a modifier, if the word is one. -/
def modifierType? (word : String) : Option String :=
  match word with
  | "public" | "protected" | "private" => some "visibility_modifier"
  | "static" => some "static_modifier"
  | "abstract" => some "abstract_modifier"
  | "final" => some "final_modifier"
  | "readonly" => some "readonly_modifier"
  | "var" => some "var_modifier"
  | _ => none

/-- Whether the token is a modifier. -/
def isModifier (t : Token) : Bool :=
  t.kind == .word && (modifierType? (foldCase t.text)).isSome

/-- One modifier.  A visibility may be for writing only. -/
def modifier : Reader Piece := do
  let t ← peek
  match modifierType? (foldCase t.text) with
  | none => fail
  | some type =>
    let p ← take
    let writes := (← peek).isSign "(" && (← peekSecond).isKeyword "set"
    if type == "visibility_modifier" && writes then
      let start ← take
      let operation ← take
      let stop ← sign ")"
      return (p.join [start, operation.other "operation", stop]).other type
    else return p.other type

/-- All modifiers in a row. -/
def modifiers : Reader (List Piece) := many isModifier modifier

/-! ## Parameters -/

/-- An equals sign and an expression, if they follow. -/
def initializer? (g : Grammar) : Reader (List Piece) := do
  match ← sign? "=" with
  | some mark => return [mark, ← g.expression 0]
  | none => return []

/-- One parameter; one with a modifier also declares a property. -/
def parameter (g : Grammar) : Reader Piece := do
  let marks ← attributes g
  let promotions ← modifiers
  let declared ← perhaps startsType type
  let reference ← sign? "&"
  let dots ← sign? "..."
  let named ← namedVariable
  let initial ← initializer? g
  let kind :=
    if !promotions.isEmpty then "property_promotion_parameter"
    else if dots.isSome then "variadic_parameter"
    else "simple_parameter"
  let subject :=
    match reference with
    | some mark =>
      if promotions.isEmpty then [mark.other "reference_modifier"] ++ dots.toList ++ [named]
      else [(mark.append named).other "by_ref"]
    | none => dots.toList ++ [named]
  let p ← Piece.ofList (marks ++ promotions ++ declared.toList ++ subject ++ initial)
  return p.other kind

/-- The parameters of a function, with their parentheses. -/
def parameters (g : Grammar) : Reader Piece := do
  let p ← Piece.ofList (← bracketed "(" ")" (parameter g))
  return p.other "formal_parameters"

/-! ## Elements of arrays -/

/-- An ampersand and the expression it refers to. -/
def reference (g : Grammar) : Reader Piece := do
  let mark ← sign "&"
  return (mark.append (← g.expression 20)).other "by_ref"

/-- An expression, or a reference. -/
def value (g : Grammar) : Reader Piece := do
  if ← atSign "&" then reference g else g.expression 0

/-- One element of an array: a value, a key and a value, or an unpacking. -/
def element (g : Grammar) : Reader Piece := do
  if ← atSign "..." then return (← unpacking g).other "array_element_initializer"
  let first ← value g
  match ← sign? "=>" with
  | some arrow => return (first.join [arrow, ← value g]).other "array_element_initializer"
  | none => return first.other "array_element_initializer"

/-- The production of an element that is left out, which only a pattern may have. -/
def hole : String := "hole"

/-- The elements of an array in brackets; some may be left out. -/
def elements (g : Grammar) : Reader Piece := do
  let start ← sign "["
  let items ← many (fun t => !t.isSign "]") do
    if ← atSign "," then
      let comma ← take
      return [comma.other hole]
    else
      let next ← element g
      if ← atSign "]" then return [next] else return [next, ← sign ","]
  return start.join (items.flatten ++ [← sign "]"])

/-! ## Patterns -/

/-- Whether the node can be assigned to. -/
def isVariable (t : Node) : Bool :=
  match t.head with
  | .var _ | .methodCall _ | .functionCall _ => true
  | .other type =>
    ["subscript_expression", "member_access_expression", "nullsafe_member_access_expression",
      "scoped_property_access_expression", "dynamic_variable_name"].contains type
  | _ => false

mutual

/-- An array literal read as a pattern: each element must be a variable, a reference or
a pattern, perhaps behind a key. -/
def pattern? : Node → Option Node
  | ⟨.array, line, children⟩ =>
    (patterns? children).map fun found => ⟨.other "list_literal", line, found⟩
  | ⟨head, line, children⟩ =>
    if isVariable ⟨head, line, children⟩ || head == .other "by_ref" || head == .other "list_literal"
    then some ⟨head, line, children⟩ else none

/-- The elements of an array literal read as those of a pattern. -/
def patterns? : List Node → Option (List Node)
  | [] => some []
  | ⟨.other type, line, children⟩ :: rest =>
    if type == "array_element_initializer" then
      match children with
      | [target] => do return (← pattern? target) :: (← patterns? rest)
      | [key, target] => do return key :: (← pattern? target) :: (← patterns? rest)
      | _ => none
    else if type == hole then patterns? rest
    else (patterns? rest).map (⟨.other type, line, children⟩ :: ·)
  | _ :: _ => none

end

end RouteAudit.Php
