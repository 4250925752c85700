/-
  Php/Reader.lean --- readers of tokens and their combinators.

  WHAT THIS FILE IS FOR.  A reader takes tokens from the front and yields a value, or
  faults at the line of the token it cannot take.  The productions that refer to each
  other receive those they need as a `Grammar`; `Php/Program` ties the knot.

  TERMINATION.  A repetition tries at most as many rounds as tokens are left.
-/
import RouteAudit.Php.Piece

set_option autoImplicit false

namespace RouteAudit.Php

open RouteAudit.Syntax

/-! ## Readers -/

/-- A reader of tokens. -/
abbrev Reader := StateT (List Token) (Except Fault)

namespace Reader

/-- The next token; past the end, one more end. -/
def peek : Reader Token := do
  match ← get with
  | t :: _ => return t
  | [] => return ⟨.finish, "", 0, "", []⟩

/-- The token after the next one. -/
def peekSecond : Reader Token := do
  match ← get with
  | _ :: t :: _ => return t
  | _ => return ⟨.finish, "", 0, "", []⟩

/-- Fault at the next token. -/
def fail {α : Type} : Reader α := do
  throw ⟨(← peek).line⟩

/-- Take the next token. -/
def take : Reader Piece := do
  match ← get with
  | t :: rest =>
    set rest
    return .ofToken t
  | [] => fail

/-- Take the next token if it passes the test. -/
def takeIf (test : Token → Bool) : Reader (Option Piece) := do
  if test (← peek) then return some (← take) else return none

/-- Take the next token, which must pass the test. -/
def expect (test : Token → Bool) : Reader Piece := do
  if test (← peek) then take else fail

/-- Whether the next token is the given sign. -/
def atSign (s : String) : Reader Bool := do
  return (← peek).isSign s

/-- Whether the next token is the given keyword. -/
def atKeyword (s : String) : Reader Bool := do
  return (← peek).isKeyword s

def sign (s : String) : Reader Piece := expect (·.isSign s)

def sign? (s : String) : Reader (Option Piece) := takeIf (·.isSign s)

def keyword (s : String) : Reader Piece := expect (·.isKeyword s)

def keyword? (s : String) : Reader (Option Piece) := takeIf (·.isKeyword s)

/-- How many tokens are left. -/
def left : Reader Nat := do
  return (← get).length

/-- Run the reader if the test holds of the next token. -/
def perhaps {α : Type} (test : Token → Bool) (item : Reader α) : Reader (Option α) := do
  if test (← peek) then return some (← item) else return none

/-- Run the item as long as the test holds of the next token, at most so many times. -/
def whileLoop {α : Type} (test : Token → Bool) (item : Reader α) : Nat → Reader (List α)
  | 0 => return []
  | rounds + 1 => do
    if test (← peek) then
      let first ← item
      let rest ← whileLoop test item rounds
      return first :: rest
    else return []

/-- Run the item as long as the test holds of the next token. -/
def many {α : Type} (test : Token → Bool) (item : Reader α) : Reader (List α) := do
  whileLoop test item (← left)

/-- The item, then the separating sign and the item again as long as that sign follows;
the separators are part of the result. -/
def separated (mark : String) (item : Reader Piece) : Reader (List Piece) := do
  let first ← item
  let rest ← many (·.isSign mark) do
    let separator ← sign mark
    let next ← item
    return [separator, next]
  return first :: rest.flatten

/-- Items between two brackets, separated by commas; one more comma may follow the
last. -/
def bracketed (openMark closeMark : String) (item : Reader Piece) : Reader (List Piece) := do
  let start ← sign openMark
  let items ← many (fun t => !t.isSign closeMark) do
    let next ← item
    if ← atSign closeMark then return [next] else return [next, ← sign ","]
  return start :: items.flatten ++ [← sign closeMark]

/-- Items between two brackets, at least one. -/
def someBracketed (openMark closeMark : String) (item : Reader Piece) : Reader (List Piece) := do
  if (← peekSecond).isSign closeMark then fail else bracketed openMark closeMark item

/-- The end of a statement: a semicolon, or the closing tag that follows. -/
def endMark : Reader (List Piece) := do
  if (← peek).interludes.isEmpty then return [← sign ";"] else return []

end Reader

/-- One piece of several; the first list must not be empty. -/
def Piece.ofList : List Piece → Reader Piece
  | [] => Reader.fail
  | p :: rest => return p.join rest

/-! ## The productions that refer to each other -/

/-- The productions that other productions need before they are defined. -/
structure Grammar where
  /-- an expression whose operators bind at least this tightly -/
  expression : Nat → Reader Piece
  statement : Reader Piece
  /-- the members of a class, in braces -/
  members : Reader Piece

/-- The grammar that reads nothing. -/
def Grammar.none : Grammar :=
  ⟨fun _ => Reader.fail, Reader.fail, Reader.fail⟩

end RouteAudit.Php
