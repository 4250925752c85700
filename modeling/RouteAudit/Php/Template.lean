/-
  Php/Template.lean --- strings with interpolation, commands and heredocs.
-/
import RouteAudit.Php.Name

set_option autoImplicit false

namespace RouteAudit.Php

open RouteAudit.Syntax
open Reader

/-! ## Parts -/

/-- The index of an interpolated element: a number, a bare word or a variable. -/
def templateIndex : Reader Piece := do
  let t ← peek
  if t.isSign "-" then
    let mark ← take
    let number ← expect (·.kind == .integer)
    return (mark.append (number.other "integer")).other "unary_op_expression"
  else if t.isSign "$" then namedVariable
  else if t.kind == .integer then return (← take).other "integer"
  else identifier

/-- A dollar sign with what it interpolates. -/
def templateVariable (g : Grammar) : Reader Piece := do
  if (← peekSecond).isSign "\x7b" then simpleVariable g
  else
    let subject ← namedVariable
    if ← atSign "[" then
      let start ← take
      let index ← templateIndex
      let stop ← sign "]"
      return (subject.join [start, index, stop]).other "subscript_expression"
    else if ← atSign "->" then
      let arrow ← take
      let member ← identifier
      return (subject.join [arrow, member]).other "member_access_expression"
    else return subject

/-- One part: plain characters, an escape, a variable, or an expression in braces. -/
def templatePart (g : Grammar) : Reader Piece := do
  let t ← peek
  match t.kind with
  | .content => return (← take).other "string_content"
  | .escape => return (← take).other "escape_sequence"
  | _ =>
    if t.isSign "$" then templateVariable g
    else
      let start ← sign "\x7b"
      let inner ← g.expression 0
      let stop ← sign "\x7d"
      return start.join [inner, stop]

/-- Whether a part can start with this token. -/
def startsPart (t : Token) : Bool :=
  t.kind == .content || t.kind == .escape || t.isSign "$" || t.isSign "\x7b"

/-- All parts in a row. -/
def templateParts (g : Grammar) : Reader (List Piece) := many startsPart (templatePart g)

/-! ## Whole strings -/

/-- A string with interpolation, or a command in backticks. -/
def template (g : Grammar) : Reader Piece := do
  let start ← expect (·.kind == .opening)
  let parts ← templateParts g
  let stop ← expect (·.kind == .closing)
  let type := if start.text == "\x60" then "shell_command_expression" else "encapsed_string"
  return (start.join (parts ++ [stop])).other type

/-- The lines of a raw heredoc.  A line after the first takes in the line break before
it, and so starts where the line before it is. -/
def rawLines (line : Nat) : List Piece → List Piece
  | [] => []
  | p :: rest => { p with line := line }.other "nowdoc_string" :: rawLines p.line rest

/-- A heredoc; the body is left out when the label follows at once. -/
def heredoc (g : Grammar) : Reader Piece := do
  let t ← peek
  let start ← take
  let isRaw := t.kind == .heredoc true
  let start := start.other "heredoc_start"
  let body ← perhaps (·.kind == .body) do
    let first ← take
    if isRaw then
      let lines ← many (·.kind == .content) take
      return (first.join (rawLines (first.line + 1) lines)).other "nowdoc_body"
    else return (first.join (← templateParts g)).other "heredoc_body"
  let stop ← expect (·.kind == .label)
  let type := if isRaw then "nowdoc" else "heredoc"
  return (start.join (body.toList ++ [stop.other "heredoc_end"])).other type

end RouteAudit.Php
