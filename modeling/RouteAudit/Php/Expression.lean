/-
  Php/Expression.lean --- expressions.

  WHAT THIS FILE IS FOR.  An expression is an operand followed by operators with their
  right sides.  How tightly an operator binds is a number; the right side of an
  operator takes every operator that binds more tightly, and one of the same number
  if the operator groups to the right.
-/
import RouteAudit.Php.Argument
import RouteAudit.Php.Template

set_option autoImplicit false

namespace RouteAudit.Php

open RouteAudit.Syntax
open Reader

/-! ## Operators -/

/-- How tightly a binary operator binds, and whether it groups to the right. -/
structure Binding where
  level : Nat
  toRight : Bool := false
  deriving DecidableEq, Repr, Inhabited

/-- The level of the conditional operator. -/
def conditionalLevel : Nat := 5

/-- The level of assignments; their right side is looser than any other operand. -/
def assignmentLevel : Nat := 4

/-- The level of a sign before its operand. -/
def signLevel : Nat := 19

/-- The binary operator that a token is, with its binding. -/
def binding? (t : Token) : Option Binding :=
  match t.kind with
  | .word =>
    match foldCase t.text with
    | "or" => some ⟨1, false⟩
    | "xor" => some ⟨2, false⟩
    | "and" => some ⟨3, false⟩
    | "instanceof" => some ⟨20, false⟩
    | _ => none
  | .sign =>
    match t.text with
    | "??" => some ⟨6, true⟩
    | "||" => some ⟨7, false⟩
    | "&&" => some ⟨8, false⟩
    | "|" => some ⟨9, false⟩
    | "^" => some ⟨10, false⟩
    | "&" => some ⟨11, false⟩
    | "==" | "!=" | "<>" | "===" | "!==" | "<=>" => some ⟨12, false⟩
    | "<" | ">" | "<=" | ">=" => some ⟨13, false⟩
    | "." => some ⟨14, false⟩
    | "<<" | ">>" => some ⟨15, false⟩
    | "+" | "-" => some ⟨16, false⟩
    | "*" | "/" | "%" => some ⟨17, false⟩
    | "**" => some ⟨18, true⟩
    | _ => none
  | _ => none

/-- The signs that assign the result of an operation. -/
def compoundAssignments : List String :=
  ["**=", "*=", "/=", "%=", "+=", "-=", ".=", "<<=", ">>=", "&=", "^=", "|=", "??="]

/-- The types a value can be cast to. -/
def castTypes : List String :=
  ["array", "binary", "bool", "boolean", "double", "int", "integer", "float", "object", "real",
   "string", "unset"]

/-! ## Small operands -/

/-- An expression in parentheses. -/
def parenthesized (g : Grammar) : Reader Piece := do
  let start ← sign "("
  let inner ← g.expression 0
  let stop ← sign ")"
  return (start.join [inner, stop]).other "parenthesized_expression"

/-- A block of statements in braces. -/
def block (g : Grammar) : Reader Piece := do
  let start ← sign "\x7b"
  let inner ← many (fun t => !t.isSign "\x7d") g.statement
  let stop ← sign "\x7d"
  return (start.join (inner ++ [stop])).other "compound_statement"

/-- A string without interpolation, after its prefix. -/
def literalValue? (quote : Quote) (text : String) : Option String :=
  quote.value? (text.toList.dropWhile fun c => c = 'b' || c = 'B')

/-- A string without interpolation. -/
def literal (quote : Quote) : Reader Piece := do
  let p ← take
  match literalValue? quote p.text with
  | some text => return p.leaf (.stringLiteral text)
  | none =>
    return p.other (match quote with
      | .single => "string"
      | .double => "encapsed_string")

/-- The elements of an array written with a keyword. -/
def longArray (g : Grammar) : Reader Piece := do
  let word ← keyword "array"
  return (word.join (← bracketed "(" ")" (element g))).node .array

/-- An array in brackets, or a pattern if an assignment follows. -/
def shortArray (g : Grammar) : Reader Piece := do
  let p := (← elements g).node .array
  if ← atSign "=" then
    match p.nodes.mapM pattern? with
    | some found => return { p with nodes := found }
    | none => fail
  else return p

/-- A pattern written with a keyword, with a bound on its depth. -/
def longPattern (g : Grammar) : Nat → Reader Piece
  | 0 => fail
  | depth + 1 => do
    let word ← keyword "list"
    let start ← sign "("
    let items ← many (fun t => !t.isSign ")") do
      if ← atSign "," then return [← take]
      else
        let next ← item depth
        if ← atSign ")" then return next else return next ++ [← sign ","]
    let stop ← sign ")"
    return (word.join (start :: items.flatten ++ [stop])).other "list_literal"
where
  /-- A target of the pattern. -/
  target (depth : Nat) : Reader Piece := do
    if (← atKeyword "list") && (← peekSecond).isSign "(" then longPattern g depth else value g
  /-- A target, perhaps behind a key. -/
  item (depth : Nat) : Reader (List Piece) := do
    let first ← target depth
    match ← sign? "=>" with
    | some arrow => return [first, arrow, ← target depth]
    | none => return [first]

/-! ## Functions without a name -/

/-- A function with a body of statements. -/
def anonymousFunction (g : Grammar) : Reader Piece := do
  let word ← keyword "function"
  let reference := (← sign? "&").map (·.other "reference_modifier")
  let given ← parameters g
  let captured ← perhaps (·.isKeyword "use") do
    let use ← take
    let names ← someBracketed "(" ")" do
      match ← sign? "&" with
      | some mark => return (mark.append (← namedVariable)).other "by_ref"
      | none => namedVariable
    return (use.join names).other "anonymous_function_use_clause"
  let returned ← returnType?
  let body ← block g
  let result := (returned.map fun (colon, type) => [colon, type]).getD []
  return word.join (reference.toList ++ [given] ++ captured.toList ++ result ++ [body])

/-- A function whose body is one expression. -/
def arrowFunction (g : Grammar) : Reader Piece := do
  let word ← keyword "fn"
  let reference := (← sign? "&").map (·.other "reference_modifier")
  let given ← parameters g
  let returned ← returnType?
  let arrow ← sign "=>"
  let body ← g.expression 0
  let result := (returned.map fun (colon, type) => [colon, type]).getD []
  return word.join (reference.toList ++ [given] ++ result ++ [arrow, body])

/-- A function without a name, with its attributes and modifier. -/
def closure (g : Grammar) : Reader Piece := do
  let marks ← attributes g
  let fixed := (← keyword? "static").map (·.other "static_modifier")
  let isArrow ← atKeyword "fn"
  let body ← if isArrow then arrowFunction g else anonymousFunction g
  let p ← Piece.ofList (marks ++ fixed.toList ++ [body])
  return p.other (if isArrow then "arrow_function" else "anonymous_function")

/-! ## Creation of objects -/

/-- The class that a class extends. -/
def baseClause : Reader Piece := do
  let word ← keyword "extends"
  return (word.join (← separated "," name)).other "base_clause"

/-- The interfaces that a class implements. -/
def interfaceClause : Reader Piece := do
  let word ← keyword "implements"
  return (word.join (← separated "," name)).other "class_interface_clause"

/-- A class without a name, from its keyword on. -/
def anonymousClass (g : Grammar) : Reader Piece := do
  let marks ← attributes g
  let flags ← modifiers
  let word ← keyword "class"
  let given ← arguments? g
  let base ← perhaps (·.isKeyword "extends") baseClause
  let interfaces ← perhaps (·.isKeyword "implements") interfaceClause
  let body ← g.members
  let p ← Piece.ofList
    (marks ++ flags ++ [word] ++ given ++ base.toList ++ interfaces.toList ++ [body])
  return p.other "anonymous_class"

/-- The name of a member: a word, a variable, or an expression in braces.  The first
piece is what the member is called, the second all that was read. -/
def member (g : Grammar) : Reader (Piece × Piece) := do
  let t ← peek
  if t.isSign "\x7b" then
    let start ← take
    let inner ← g.expression 0
    let stop ← sign "\x7d"
    return (inner, start.join [inner, stop])
  else if t.isSign "$" then
    let p ← simpleVariable g
    return (p, p)
  else
    let p ← identifier
    return (p, p)

/-- A class named by a word, by a variable with its members, or in parentheses. -/
def classReference (g : Grammar) : Reader Piece := do
  let t ← peek
  if t.isSign "(" then parenthesized g
  else
    let first ← if t.isSign "$" then simpleVariable g else name
    go (t.isSign "$") (← left) first
where
  /-- The members after the start; subscripts and arrows only behind a variable. -/
  go (isComputed : Bool) : Nat → Piece → Reader Piece
    | 0, p => return p
    | rounds + 1, p => do
      let t ← peek
      if t.isSign "::" && (← peekSecond).isSign "$" then
        let colons ← take
        let next ← simpleVariable g
        go true rounds ((p.join [colons, next]).other "scoped_property_access_expression")
      else if isComputed && t.isSign "[" then
        let start ← take
        let index ← perhaps (fun t => !t.isSign "]") (g.expression 0)
        let stop ← sign "]"
        go true rounds ((p.join (start :: index.toList ++ [stop])).other "subscript_expression")
      else if isComputed && (t.isSign "->" || t.isSign "?->") then
        let arrow ← take
        let (_, whole) ← member g
        let type := if t.isSign "->" then "member_access_expression"
          else "nullsafe_member_access_expression"
        go true rounds ((p.join [arrow, whole]).other type)
      else return p

/-- The creation of an object, and whether members can be taken from it at once. -/
def creation (g : Grammar) : Reader (Piece × Bool) := do
  let word ← keyword "new"
  let t ← peek
  if t.isSign "#[" || isModifier t && !t.isKeyword "static" || t.isKeyword "class" then
    let body ← anonymousClass g
    return ((word.append body).other "object_creation_expression", true)
  else
    let called ← classReference g
    let given ← arguments? g
    return ((word.join (called :: given)).other "object_creation_expression", !given.isEmpty)

/-! ## Members and calls -/

/-- What may follow an operand. -/
inductive Base where
  /-- members, elements and calls -/
  | callable
  /-- members and elements -/
  | dereferencable
  /-- only members of the class itself -/
  | scope
  /-- nothing -/
  | closed
  deriving DecidableEq, Repr, Inhabited

/-- A call of a function.  A name is taken into the call; any other callee is its first
child. -/
def functionCall (callee : Piece) (given : Piece) : Piece :=
  match callee.nodes with
  | [⟨.identifier called, _, _⟩] => (callee.mute.append given).node (.functionCall called)
  | _ => (callee.append given).node (.functionCall "")

/-- A call of a method: the receiver, the arrow or colons, the name, the arguments. -/
def methodCall (receiver mark called whole given : Piece) : Piece :=
  (receiver.join [mark, whole.mute, given]).node (.methodCall called.text)

/-- The members, elements and calls behind an operand, at most so many. -/
def suffixes (g : Grammar) : Nat → Base → Piece → Reader Piece
  | 0, _, p => return p
  | rounds + 1, base, p => do
    let t ← peek
    if base == .closed || t.kind != .sign then return p
    match t.text with
    | "->" | "?->" =>
      if base == .scope then return p
      let arrow ← take
      let (called, whole) ← member g
      if ← atSign "(" then
        let given ← arguments g
        suffixes g rounds .callable (methodCall p arrow called whole given)
      else
        let type := if t.text == "->" then "member_access_expression"
          else "nullsafe_member_access_expression"
        suffixes g rounds .dereferencable ((p.join [arrow, whole]).other type)
    | "::" =>
      let colons ← take
      let isVariable ← atSign "$"
      let (called, whole) ← member g
      if ← atSign "(" then
        let given ← arguments g
        suffixes g rounds .callable (methodCall p colons called whole given)
      else
        let type := if isVariable then "scoped_property_access_expression"
          else "class_constant_access_expression"
        suffixes g rounds .dereferencable ((p.join [colons, whole]).other type)
    | "[" =>
      if base == .scope then return p
      let start ← take
      let index ← perhaps (fun t => !t.isSign "]") (g.expression 0)
      let stop ← sign "]"
      suffixes g rounds .callable
        ((p.join (start :: index.toList ++ [stop])).other "subscript_expression")
    | "\x7b" =>
      if p.nodes.all isVariable then
        let start ← take
        let index ← g.expression 0
        let stop ← sign "\x7d"
        suffixes g rounds .callable ((p.join [start, index, stop]).other "subscript_expression")
      else return p
    | "(" =>
      if base == .callable then
        let given ← arguments g
        suffixes g rounds .callable (functionCall p given)
      else return p
    | _ => return p

/-- The suffixes behind an operand. -/
def withSuffixes (g : Grammar) (base : Base) (p : Piece) : Reader Piece := do
  suffixes g (← left) base p

/-! ## Operands -/

/-- One arm of a match. -/
def matchArm (g : Grammar) : Reader Piece := do
  if (← atKeyword "default") && (← peekSecond).isSign "=>" then
    let word ← take
    let arrow ← take
    let result ← g.expression 0
    return (word.join [arrow, result]).other "match_default_expression"
  else
    let conditions ← many (fun t => !t.isSign "=>") do
      let next ← g.expression 0
      if ← atSign "=>" then return [next] else return [next, ← sign ","]
    let all ← Piece.ofList conditions.flatten
    let arrow ← sign "=>"
    let result ← g.expression 0
    return ((all.other "match_condition_list").join [arrow, result]).other
      "match_conditional_expression"

/-- A match with all its arms. -/
def matchExpression (g : Grammar) : Reader Piece := do
  let word ← keyword "match"
  let subject ← parenthesized g
  let arms ← Piece.ofList (← bracketed "\x7b" "\x7d" (matchArm g))
  return (word.join [subject, arms.other "match_block"]).other "match_expression"

/-- Whether the token ends an expression that may be left out. -/
def endsExpression (t : Token) : Bool :=
  t.kind == .finish || !t.interludes.isEmpty ||
    t.kind == .sign && [";", ")", "]", "\x7d", ",", ":", "=>"].contains t.text

/-- A yield with what it yields. -/
def yieldExpression (g : Grammar) : Reader Piece := do
  let word ← keyword "yield"
  let t ← peek
  if t.isKeyword "from" then
    let inner ← take
    return (word.join [inner, ← g.expression 0]).other "yield_expression"
  else if endsExpression t then return word.other "yield_expression"
  else return (word.append (← element g)).other "yield_expression"

/-- The keywords with one expression after them, and their productions. -/
def keywordExpression? (word : String) : Option String :=
  match word with
  | "print" => some "print_intrinsic"
  | "throw" => some "throw_expression"
  | "include" => some "include_expression"
  | "include_once" => some "include_once_expression"
  | "require" => some "require_expression"
  | "require_once" => some "require_once_expression"
  | _ => none

/-- An operand that starts with a word, with its suffixes. -/
def wordOperand (g : Grammar) (t : Token) : Reader Piece := do
  let next ← peekSecond
  let word := foldCase t.text
  match word with
  | "true" | "false" => return (← take).other "boolean"
  | "null" => return (← take).other "null"
  | "array" => withSuffixes g .callable (← longArray g)
  | "list" => longPattern g (← left)
  | "new" =>
    let (p, isOpen) ← creation g
    withSuffixes g (if isOpen then .dereferencable else .closed) p
  | "match" => matchExpression g
  | "yield" => yieldExpression g
  | "fn" | "function" => closure g
  | "self" | "parent" | "static" =>
    if word == "static" && (next.isKeyword "fn" || next.isKeyword "function") then closure g
    else if next.isSign "::" then withSuffixes g .scope ((← take).other "relative_scope")
    else withSuffixes g .callable (← identifier)
  | "namespace" =>
    if next.isSign "\\" then withSuffixes g .callable (← name) else fail
  | _ =>
    match keywordExpression? word with
    | some type =>
      let start ← take
      return (start.append (← g.expression 0)).other type
    | none => withSuffixes g .callable (← name)

/-- An operand without signs before it, with its suffixes. -/
def primary (g : Grammar) : Reader Piece := do
  let t ← peek
  match t.kind with
  | .word => wordOperand g t
  | .integer => return (← take).other "integer"
  | .float => return (← take).other "float"
  | .literal quote => withSuffixes g .callable (← literal quote)
  | .opening =>
    let p ← template g
    withSuffixes g (if t.text == "\x60" then .closed else .callable) p
  | .heredoc _ => withSuffixes g .callable (← heredoc g)
  | .sign =>
    match t.text with
    | "$" => withSuffixes g .callable (← simpleVariable g)
    | "[" => withSuffixes g .callable (← shortArray g)
    | "(" => withSuffixes g .callable (← parenthesized g)
    | "\\" => withSuffixes g .callable (← name)
    | "#[" => closure g
    | _ => fail
  | _ => fail

/-- An update before or after a variable; any other operand as it is. -/
def updated (g : Grammar) : Reader Piece := do
  let t ← peek
  if t.isSign "++" || t.isSign "--" then
    let mark ← take
    return (mark.append (← primary g)).other "update_expression"
  else
    let p ← primary g
    let next ← peek
    if (next.isSign "++" || next.isSign "--") && p.nodes.all isVariable then
      return (p.append (← take)).other "update_expression"
    else return p

/-- Whether a parenthesis opens a cast. -/
def startsCast : Reader Bool := do
  match ← get with
  | start :: word :: stop :: _ =>
    return start.isSign "(" && word.isOneOf castTypes && stop.isSign ")"
  | _ => return false

/-- An assignment to what was read, if an assigning sign follows. -/
def assigned (g : Grammar) (p : Piece) : Reader Piece := do
  let t ← peek
  let isPattern := p.nodes.all (·.head == .other "list_literal")
  let canAssign := p.nodes.all fun t => isVariable t || t.head == .other "cast_expression"
  if t.isSign "=" && (canAssign || isPattern) then
    let mark ← take
    match ← sign? "&" with
    | some reference =>
      let right ← g.expression (assignmentLevel + 1)
      return (p.join [mark, reference, right]).other "reference_assignment_expression"
    | none =>
      let right ← g.expression (assignmentLevel + 1)
      return { p with nodes := p.nodes ++ right.nodes }.node .assign
  else if isPattern then fail
  else if t.kind == .sign && compoundAssignments.contains t.text && canAssign then
    let mark ← take
    let right ← g.expression (assignmentLevel + 1)
    return (p.join [mark, right]).other "augmented_assignment_expression"
  else return p

/-- An operand with the signs and casts before it; with a bound on their number. -/
def operand (g : Grammar) : Nat → Reader Piece
  | 0 => fail
  | rounds + 1 => do
    let t ← peek
    if ["!", "-", "+", "~"].any t.isSign then
      let mark ← take
      return (mark.append (← g.expression (signLevel + 1))).other "unary_op_expression"
    else if t.isSign "@" then
      let mark ← take
      return (mark.append (← g.expression (signLevel + 2))).other "error_suppression_expression"
    else if t.isKeyword "clone" then
      let word ← take
      return (word.append (← updated g)).other "clone_expression"
    else if ← startsCast then
      let start ← take
      let type ← take
      let stop ← take
      let next ← peek
      let isSigned := ["!", "-", "+", "~", "@"].any next.isSign
      let inner ← if isSigned || (← startsCast) then operand g rounds else updated g
      let cast := (start.join [type.other "cast_type", stop, inner]).other "cast_expression"
      if inner.nodes.all isVariable then assigned g cast else return cast
    else if t.isSign "(" && (← peekSecond).isOneOf (castTypes.filter (· != "array")) then fail
    else assigned g (← updated g)

/-! ## Expressions -/

/-- The operators and right sides behind an operand, at most so many. -/
def operations (g : Grammar) (level : Nat) : Nat → Piece → Reader Piece
  | 0, p => return p
  | rounds + 1, p => do
    let t ← peek
    if t.isSign "?" && level ≤ conditionalLevel then
      let mark ← take
      let body ← perhaps (fun t => !t.isSign ":") (g.expression 0)
      let colon ← sign ":"
      let other ← g.expression (conditionalLevel + 1)
      operations g level rounds
        ((p.join (mark :: body.toList ++ [colon, other])).other "conditional_expression")
    else match binding? t with
    | none => return p
    | some found =>
      if found.level < level then return p
      let mark ← take
      let right ←
        if t.isKeyword "instanceof" then classReference g
        else g.expression (if found.toRight then found.level else found.level + 1)
      operations g level rounds ((p.join [mark, right]).other "binary_expression")

/-- An expression whose operators bind at least as tightly as the level. -/
def expression (g : Grammar) (level : Nat) : Reader Piece := do
  let first ← operand g (← left)
  operations g level (← left) first

end RouteAudit.Php
