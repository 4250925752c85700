/-
  Php/Token.lean --- the tokens of a PHP file.

  WHAT THIS FILE IS FOR.  The reader of the grammar works on a list of tokens.
  A token remembers what was skipped before it: `gap`, the blanks and comments, so
  that the text of several tokens can be given back exactly, and `interludes`, the
  stretches of text outside the code, which are nodes of the tree.
-/
import RouteAudit.Syntax.Node
import RouteAudit.Syntax.Literal
import RouteAudit.Syntax.Name

set_option autoImplicit false

namespace RouteAudit.Php

open RouteAudit.Syntax

/-- The classes of tokens. -/
inductive Kind where
  /-- a name or keyword -/
  | word
  /-- an operator or bracket -/
  | sign
  | integer
  | float
  /-- a string without interpolation, quotes included -/
  | literal (quote : Quote)
  /-- the quote that opens a string with interpolation, or the backtick of a command -/
  | opening
  /-- the quote or backtick that closes it -/
  | closing
  /-- plain characters of a string with interpolation -/
  | content
  /-- an escape in a string with interpolation -/
  | escape
  /-- the opening of a heredoc; raw when its label is in single quotes -/
  | heredoc (isRaw : Bool)
  /-- the line break before the body of a heredoc -/
  | body
  /-- the label that ends a heredoc -/
  | label
  /-- the end of the file -/
  | finish
  deriving DecidableEq, Repr, Inhabited

/-- One token of the code. -/
structure Token where
  kind : Kind
  text : String
  /-- the line it starts on -/
  line : Nat
  /-- blanks and comments between the previous token and this one -/
  gap : String := ""
  /-- the stretches of text outside the code before this token -/
  interludes : List Node := []
  deriving Repr, Inhabited

namespace Token

/-- Whether this is the given sign. -/
def isSign (t : Token) (s : String) : Bool :=
  t.kind == .sign && t.text == s

/-- Whether this is the given keyword, in any case. -/
def isKeyword (t : Token) (s : String) : Bool :=
  t.kind == .word && foldCase t.text == s

/-- Whether this is one of the given keywords, in any case. -/
def isOneOf (t : Token) (words : List String) : Bool :=
  t.kind == .word && words.contains (foldCase t.text)

/-- The keywords that an operand follows. -/
def beforeOperand : List String :=
  ["return", "echo", "print", "case", "yield", "from", "else", "do", "and", "or", "xor", "clone",
   "throw", "include", "include_once", "require", "require_once"]

/-- Whether a point after this token joins two operands.  Behind a closing brace a
statement starts, and a point in front of a digit belongs to a number. -/
def endsOperand (t : Token) : Bool :=
  match t.kind with
  | .word => !t.isOneOf beforeOperand
  | .integer | .float | .literal _ | .closing | .label => true
  | .sign => t.text == ")" || t.text == "]"
  | .opening | .content | .escape | .heredoc _ | .body | .finish => false

end Token

/-- The first place where the text is no PHP file. -/
structure Fault where
  line : Nat
  deriving DecidableEq, Repr, Inhabited

end RouteAudit.Php
