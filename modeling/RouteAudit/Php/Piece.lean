/-
  Php/Piece.lean --- what a stretch of tokens contributes to the tree.

  WHAT THIS FILE IS FOR.  A production of the grammar reads some tokens and yields
  a piece: no node for a bracket or keyword, one node for a whole construct, several
  for a list that belongs to the construct around it.

  INTERLUDES.  Text outside the code may stand between any two tokens.  It belongs to
  the smallest construct with tokens on both sides of it.  A piece therefore keeps
  what stands before its first token apart, and only `join` puts it among the nodes.
-/
import RouteAudit.Php.Token

set_option autoImplicit false

namespace RouteAudit.Php

open RouteAudit.Syntax

/-- The contribution of a stretch of tokens. -/
structure Piece where
  /-- the line of its first token -/
  line : Nat
  /-- interludes before its first token -/
  before : List Node
  nodes : List Node
  /-- the text of its tokens with everything between them -/
  text : String
  /-- the blanks and comments before its first token -/
  gap : String
  deriving Repr, Inhabited

namespace Piece

/-- A token alone contributes no node. -/
def ofToken (t : Token) : Piece :=
  ⟨t.line, t.interludes, [], t.text, t.gap⟩

/-- Two pieces, one after the other. -/
def append (p q : Piece) : Piece :=
  { p with nodes := p.nodes ++ q.before ++ q.nodes, text := p.text ++ q.gap ++ q.text }

/-- A piece and those after it. -/
def join (p : Piece) (rest : List Piece) : Piece :=
  rest.foldl append p

/-- The piece as one node. -/
def node (p : Piece) (head : Head) : Piece :=
  { p with nodes := [⟨head, p.line, p.nodes⟩] }

/-- The piece as one node of the named production. -/
def other (p : Piece) (type : String) : Piece := p.node (.other type)

/-- The piece as a node without children. -/
def leaf (p : Piece) (head : Head) : Piece :=
  { p with nodes := [⟨head, p.line, []⟩] }

/-- The piece without its nodes. -/
def mute (p : Piece) : Piece := { p with nodes := [] }

end Piece

end RouteAudit.Php
