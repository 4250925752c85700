/-
  Php/Name.lean --- names, variables and types.
-/
import RouteAudit.Php.Reader

set_option autoImplicit false

namespace RouteAudit.Php

open RouteAudit.Syntax
open Reader

/-! ## Names -/

/-- One word, whatever keyword it may be elsewhere. -/
def anyWord : Reader Piece := expect (·.kind == .word)

/-- One word as an identifier. -/
def identifier : Reader Piece := do
  let p ← anyWord
  return p.leaf (.identifier p.text)

/-- The segments of a name: words with separators between them, and perhaps one in
front.  A separator that no word follows is left alone. -/
def segments : Reader Piece := do
  let start ← sign? "\\"
  let first ← anyWord
  let rest ← moreSegments (← left)
  Piece.ofList (start.toList ++ first :: rest)
where
  /-- Separators with words after them. -/
  moreSegments : Nat → Reader (List Piece)
    | 0 => return []
    | rounds + 1 => do
      if (← peek).isSign "\\" && (← peekSecond).kind == .word then
        let separator ← take
        let next ← take
        return separator :: next :: (← moreSegments rounds)
      else return []

/-- A possibly namespaced name as an identifier. -/
def name : Reader Piece := do
  let p ← segments
  return p.leaf (.identifier (trimLeading p.text))

/-- Whether a name can start with this token. -/
def startsSegments (t : Token) : Bool :=
  t.kind == .word || t.isSign "\\"

/-! ## Variables -/

/-- A dollar sign and a word. -/
def namedVariable : Reader Piece := do
  let dollar ← sign "$"
  let rest ← anyWord
  let p := dollar.append rest
  return p.leaf (.var (String.ofList (p.text.toList.dropWhile (· = '$'))))

/-- A variable, or one whose name is computed. -/
def simpleVariable (g : Grammar) : Reader Piece := do
  dollars (← left)
where
  /-- The same with a bound on the number of dollar signs. -/
  dollars : Nat → Reader Piece
    | 0 => fail
    | rounds + 1 => do
      let next ← peekSecond
      if next.kind == .word then namedVariable
      else if next.isSign "\x7b" then
        let dollar ← sign "$"
        let start ← sign "\x7b"
        let inner ← g.expression 0
        let stop ← sign "\x7d"
        return (dollar.join [start, inner, stop]).other "dynamic_variable_name"
      else
        let dollar ← sign "$"
        let inner ← dollars rounds
        return (dollar.append inner).other "dynamic_variable_name"

/-! ## Types -/

/-- The built-in types that are written in lower case. -/
def primitiveTypes : List String :=
  ["array", "callable", "iterable", "bool", "float", "int", "string", "void", "mixed", "false",
   "null", "true"]

/-- A built-in type or the name of a class. -/
def plainType : Reader Piece := do
  let t ← peek
  let next ← peekSecond
  if t.kind == .word && !next.isSign "\\" && (primitiveTypes.contains t.text || t.isKeyword "callable")
  then return (← take).other "primitive_type"
  else return (← name).other "named_type"

/-- A plain type, which may be optional. -/
def optionalType : Reader Piece := do
  match ← sign? "?" with
  | some mark => return (mark.append (← plainType)).other "optional_type"
  | none => plainType

/-- Whether a type can start with this token. -/
def startsType (t : Token) : Bool :=
  startsSegments t || t.isSign "?" || t.isSign "("

/-- Types joined by a sign, the first of them read already.  An ampersand before a
variable belongs to that variable. -/
def joinedTypes (mark : String) (item : Reader Piece) (first : Piece) : Reader Piece := do
  return first.join (← go (← left))
where
  /-- Signs with types after them. -/
  go : Nat → Reader (List Piece)
    | 0 => return []
    | rounds + 1 => do
      if (← peek).isSign mark && startsType (← peekSecond) then
        let separator ← take
        let next ← item
        return separator :: next :: (← go rounds)
      else return []

/-- An intersection in parentheses. -/
def groupedType : Reader Piece := do
  let start ← sign "("
  let inner ← joinedTypes "&" optionalType (← optionalType)
  let stop ← sign ")"
  return start.join [inner.other "intersection_type", stop]

/-- A member of a union, where an intersection may stand in parentheses. -/
def unionMember : Reader Piece := do
  if ← atSign "(" then groupedType else optionalType

/-- Whether the node is an intersection. -/
def isIntersection (t : Node) : Bool := t.head == .other "intersection_type"

/-- A type: a plain one, a union, an intersection, or a union of intersections. -/
def type : Reader Piece := do
  let first ← unionMember
  if (← peek).isSign "&" && startsType (← peekSecond) then
    return (← joinedTypes "&" optionalType first).other "intersection_type"
  let all ← joinedTypes "|" unionMember first
  if all.nodes.any isIntersection then return all.other "disjunctive_normal_form_type"
  else if all.nodes.length > 1 then return all.other "union_type"
  else return all

/-- The type after the colon of a function. -/
def returnType : Reader Piece := do
  let t ← peek
  let next ← peekSecond
  if t.kind == .word && t.text == "never" && !next.isSign "\\" then
    return (← take).other "bottom_type"
  else type

/-- A colon and a return type, if there is one: both pieces. -/
def returnType? : Reader (Option (Piece × Piece)) := do
  match ← sign? ":" with
  | some colon => return some (colon, ← returnType)
  | none => return none

end RouteAudit.Php
