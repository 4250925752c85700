/-
  Php/Statement.lean --- statements.
-/
import RouteAudit.Php.Declaration

set_option autoImplicit false

namespace RouteAudit.Php

open RouteAudit.Syntax
open Reader

/-! ## Simple statements -/

/-- An expression as a statement. -/
def expressionStatement (g : Grammar) : Reader Piece := do
  let p ← g.expression 0
  return (p.join (← endMark)).other "expression_statement"

/-- Expressions with commas between them; several make a sequence, which nests to the
right. -/
def expressions (g : Grammar) : Reader Piece := do
  let first ← g.expression 0
  let rest ← many (·.isSign ",") do return (← sign ",", ← g.expression 0)
  return go first rest
where
  /-- The nested sequence. -/
  go (first : Piece) : List (Piece × Piece) → Piece
    | [] => first
    | (comma, next) :: rest => (first.join [comma, go next rest]).other "sequence_expression"

/-- A keyword, perhaps an expression, and the end of the statement. -/
def keywordStatement (g : Grammar) (word : String) : Reader Piece := do
  let start ← keyword word
  let inner ← if endsExpression (← peek) then pure [] else pure [← g.expression 0]
  return start.join (inner ++ (← endMark))

/-- An exit, perhaps with a result in parentheses. -/
def exitStatement (g : Grammar) : Reader Piece := do
  let start ← keyword "exit"
  let given ← perhaps (·.isSign "(") do
    let opening ← sign "("
    let inner ← perhaps (fun t => !t.isSign ")") (g.expression 0)
    let closing ← sign ")"
    return opening.join (inner.toList ++ [closing])
  return (start.join (given.toList ++ (← endMark))).other "exit_statement"

/-- An echo of one or more expressions. -/
def echoStatement (g : Grammar) : Reader Piece := do
  let start ← keyword "echo"
  let inner ← expressions g
  return (start.join (inner :: (← endMark))).other "echo_statement"

/-- The removal of variables. -/
def unsetStatement (g : Grammar) : Reader Piece := do
  let start ← keyword "unset"
  let inner ← someBracketed "(" ")" (g.expression 20)
  return (start.join (inner ++ (← endMark))).other "unset_statement"

/-- Variables taken from outside a function. -/
def globalDeclaration (g : Grammar) : Reader Piece := do
  let start ← keyword "global"
  let names ← separated "," (simpleVariable g)
  return (start.join (names ++ (← endMark))).other "global_declaration"

/-- Variables that a function keeps between calls. -/
def staticDeclaration (g : Grammar) : Reader Piece := do
  let start ← keyword "static"
  let items ← separated "," do
    let called ← namedVariable
    return (called.join (← initializer? g)).other "static_variable_declaration"
  return (start.join (items ++ (← endMark))).other "function_static_declaration"

/-- A jump to a label. -/
def gotoStatement : Reader Piece := do
  let start ← keyword "goto"
  let target ← identifier
  return (start.join (target :: (← endMark))).other "goto_statement"

/-- A label. -/
def labelStatement : Reader Piece := do
  let called ← identifier
  return (called.append (← sign ":")).other "named_label_statement"

/-! ## Bodies -/

/-- Statements up to one of the keywords, or to the end of the file. -/
def statementsUntil (g : Grammar) (words : List String) : Reader (List Piece) :=
  many (fun t => t.kind != .finish && !t.isOneOf words && !t.isSign "\x7d") g.statement

/-- A colon and the statements up to one of the keywords. -/
def colonBlock (g : Grammar) (words : List String) : Reader Piece := do
  let colon ← sign ":"
  return (colon.join (← statementsUntil g words)).other "colon_block"

/-- The body of a loop: a statement, or a block up to the keyword that closes it. -/
def loopBody (g : Grammar) (word : String) : Reader (List Piece) := do
  if ← atSign ":" then
    let body ← colonBlock g [word]
    let close ← keyword word
    return body :: close :: (← endMark)
  else return [← g.statement]

/-! ## Choices -/

/-- The alternatives of a choice whose bodies are statements. -/
def alternatives (g : Grammar) : Nat → Reader (List Piece)
  | 0 => return []
  | rounds + 1 => do
    if ← atKeyword "elseif" then
      let word ← take
      let condition ← parenthesized g
      let body ← g.statement
      return (word.join [condition, body]).other "else_if_clause" :: (← alternatives g rounds)
    else if ← atKeyword "else" then
      let word ← take
      return [(word.append (← g.statement)).other "else_clause"]
    else return []

/-- The alternatives of a choice whose bodies follow a colon, and its end. -/
def colonAlternatives (g : Grammar) (words : List String) : Nat → Reader (List Piece)
  | 0 => fail
  | rounds + 1 => do
    if ← atKeyword "elseif" then
      let word ← take
      let condition ← parenthesized g
      let body ← colonBlock g words
      let clause := (word.join [condition, body]).other "else_if_clause"
      return clause :: (← colonAlternatives g words rounds)
    else if ← atKeyword "else" then
      let word ← take
      let clause := (word.append (← colonBlock g words)).other "else_clause"
      let close ← keyword "endif"
      return clause :: close :: (← endMark)
    else
      let close ← keyword "endif"
      return close :: (← endMark)

/-- A choice. -/
def ifStatement (g : Grammar) : Reader Piece := do
  let word ← keyword "if"
  let condition ← parenthesized g
  let rest ←
    if ← atSign ":" then
      let words := ["elseif", "else", "endif"]
      let body ← colonBlock g words
      pure (body :: (← colonAlternatives g words (← left)))
    else
      let body ← g.statement
      pure (body :: (← alternatives g (← left)))
  return (word.join (condition :: rest)).other "if_statement"

/-- One case of a switch, or its default. -/
def switchCase (g : Grammar) (words : List String) : Reader Piece := do
  let isCase ← atKeyword "case"
  let word ← expect (·.isOneOf ["case", "default"])
  let value ← if isCase then pure [← g.expression 0] else pure []
  let mark ← expect fun t => t.isSign ":" || t.isSign ";"
  let body ← statementsUntil g words
  return (word.join (value ++ mark :: body)).other
    (if isCase then "case_statement" else "default_statement")

/-- A switch over its cases. -/
def switchStatement (g : Grammar) : Reader Piece := do
  let word ← keyword "switch"
  let condition ← parenthesized g
  let isCase (t : Token) : Bool := t.isOneOf ["case", "default"]
  let body ←
    if ← atSign ":" then
      let colon ← take
      let cases ← many isCase (switchCase g ["case", "default", "endswitch"])
      let close ← keyword "endswitch"
      pure (colon.join (cases ++ close :: (← endMark)))
    else
      let start ← sign "\x7b"
      let cases ← many isCase (switchCase g ["case", "default"])
      let stop ← sign "\x7d"
      pure (start.join (cases ++ [stop]))
  return (word.join [condition, body.other "switch_block"]).other "switch_statement"

/-! ## Loops -/

/-- A loop with its condition in front. -/
def whileStatement (g : Grammar) : Reader Piece := do
  let word ← keyword "while"
  let condition ← parenthesized g
  return (word.join (condition :: (← loopBody g "endwhile"))).other "while_statement"

/-- A loop with its condition behind. -/
def doStatement (g : Grammar) : Reader Piece := do
  let word ← keyword "do"
  let body ← g.statement
  let close ← keyword "while"
  let condition ← parenthesized g
  return (word.join (body :: close :: condition :: (← endMark))).other "do_statement"

/-- A loop with a start, a condition and a step. -/
def forStatement (g : Grammar) : Reader Piece := do
  let word ← keyword "for"
  let opening ← sign "("
  let start ← perhaps (fun t => !t.isSign ";") (expressions g)
  let mark ← sign ";"
  let condition ← perhaps (fun t => !t.isSign ";") (expressions g)
  let second ← sign ";"
  let step ← perhaps (fun t => !t.isSign ")") (expressions g)
  let closing ← sign ")"
  let body ←
    if ← atSign ":" then
      let colon ← take
      let inner ← statementsUntil g ["endfor"]
      let close ← keyword "endfor"
      pure (colon :: inner ++ close :: (← endMark))
    else match ← sign? ";" with
    | some stop => pure [stop]
    | none => pure [← g.statement]
  return (word.join (opening :: start.toList ++ mark :: condition.toList ++ second :: step.toList ++
    closing :: body)).other "for_statement"

/-- The target of a loop over a collection: a reference, a variable or a pattern. -/
def loopTarget (g : Grammar) : Reader Piece := do
  if (← atKeyword "list") && (← peekSecond).isSign "(" then longPattern g (← left)
  else
    let p ← value g
    match p.nodes.mapM pattern? with
    | some found => return { p with nodes := found }
    | none => return p

/-- A loop over a collection. -/
def foreachStatement (g : Grammar) : Reader Piece := do
  let word ← keyword "foreach"
  let opening ← sign "("
  let subject ← g.expression 0
  let preposition ← keyword "as"
  let first ← loopTarget g
  let target ←
    match ← sign? "=>" with
    | some arrow => pure ((first.join [arrow, ← loopTarget g]).other "pair")
    | none => pure first
  let closing ← sign ")"
  let body ←
    match ← sign? ";" with
    | some stop => pure [stop]
    | none => loopBody g "endforeach"
  return (word.join (opening :: subject :: preposition :: target :: closing :: body)).other
    "foreach_statement"

/-! ## Faults of the program -/

/-- The classes a handler is for. -/
def caughtTypes : Reader Piece := do
  let first := (← name).other "named_type"
  let rest ← many (·.isSign "|") do
    return [← sign "|", (← name).other "named_type"]
  return (first.join rest.flatten).other "type_list"

/-- One handler, or the final block. -/
def handler (g : Grammar) : Reader Piece := do
  if ← atKeyword "catch" then
    let word ← take
    let opening ← sign "("
    let types ← caughtTypes
    let called ← perhaps (·.isSign "$") namedVariable
    let closing ← sign ")"
    let body ← block g
    return (word.join (opening :: types :: called.toList ++ [closing, body])).other "catch_clause"
  else
    let word ← keyword "finally"
    return (word.append (← block g)).other "finally_clause"

/-- A block with its handlers, at least one. -/
def tryStatement (g : Grammar) : Reader Piece := do
  let word ← keyword "try"
  let body ← block g
  let handlers ← many (·.isOneOf ["catch", "finally"]) (handler g)
  if handlers.isEmpty then fail
  return (word.join (body :: handlers)).other "try_statement"

/-! ## Directives -/

/-- A directive to the compiler and its value. -/
def directive (g : Grammar) : Reader Piece := do
  let called ← expect (·.isOneOf ["ticks", "encoding", "strict_types"])
  let mark ← sign "="
  let value ← g.expression 0
  return (called.join [mark, value]).other "declare_directive"

/-- Directives for the file or for the statements that follow. -/
def declareStatement (g : Grammar) : Reader Piece := do
  let word ← keyword "declare"
  let directives ← someBracketed "(" ")" (directive g)
  let body ←
    if ← atSign ":" then
      let colon ← take
      let inner ← statementsUntil g ["enddeclare"]
      let close ← keyword "enddeclare"
      pure (colon :: inner ++ close :: (← endMark))
    else if (← atSign ";") || !(← peek).interludes.isEmpty then endMark
    else pure [← g.statement]
  return (word.join (directives ++ body)).other "declare_statement"

/-! ## All statements -/

/-- The first tokens behind the attributes at the front. -/
def behindAttributes (g : Grammar) : Reader (Token × Token) := do
  let before ← get
  let _ ← attributes g
  let found := (← peek, ← peekSecond)
  set before
  return found

/-- A statement that starts with a word; nothing if the word starts an expression. -/
def wordStatement? (g : Grammar) (t next : Token) : Option (Reader Piece) :=
  match foldCase t.text with
  | "abstract" | "final" | "readonly" | "class" => some (classDeclaration g)
  | "interface" | "trait" | "enum" => some (classLike g)
  | "function" =>
    if next.kind == .word then some (functionDefinition g)
    else if next.isSign "&" then some (fun s =>
      tryCatch (functionDefinition g s) fun _ => expressionStatement g s)
    else none
  | "namespace" =>
    if next.isSign "\\" then some (fun s =>
      tryCatch (namespaceDefinition g s) fun _ => expressionStatement g s)
    else some (namespaceDefinition g)
  | "use" => some imports
  | "const" => some (constants g)
  | "static" => if next.isSign "$" then some (staticDeclaration g) else none
  | "global" => some (globalDeclaration g)
  | "if" => some (ifStatement g)
  | "switch" => some (switchStatement g)
  | "while" => some (whileStatement g)
  | "do" => some (doStatement g)
  | "for" => some (forStatement g)
  | "foreach" => some (foreachStatement g)
  | "try" => some (tryStatement g)
  | "declare" => some (declareStatement g)
  | "return" => some do return (← keywordStatement g "return").node .returnStatement
  | "break" => some do return (← keywordStatement g "break").other "break_statement"
  | "continue" => some do return (← keywordStatement g "continue").other "continue_statement"
  | "goto" => some gotoStatement
  | "exit" => some (exitStatement g)
  | "echo" => some (echoStatement g)
  | "unset" => some (unsetStatement g)
  | word =>
    let startsExpression := ["true", "false", "null", "array", "list", "new", "match", "yield",
      "fn", "self", "parent", "clone"].contains word || (keywordExpression? word).isSome
    if next.isSign ":" && !startsExpression then some labelStatement else none

/-- A statement. -/
def statement (g : Grammar) : Reader Piece := do
  let t ← peek
  if t.isSign "\x7b" then block g
  else if t.isSign ";" then return (← take).other "empty_statement"
  else
    let (first, second) ← if t.isSign "#[" then behindAttributes g else pure (t, ← peekSecond)
    match if first.kind == .word then wordStatement? g first second else none with
    | some found => found
    | none => expressionStatement g

end RouteAudit.Php
