/-
  Php/Tokens.lean --- from the characters of a file to its tokens.

  WHAT THIS FILE IS FOR.  A PHP file switches between text and code, and its
  strings hold code again.  The scanner keeps a stack of modes: one entry for every
  brace, string and heredoc that is open.  The mode on top decides how the next
  lexeme is read and what the stack is afterwards.

  TERMINATION.  Every lexeme takes at least one character, so as many rounds as the
  file has characters are enough.
-/
import RouteAudit.Php.Scan

set_option autoImplicit false

namespace RouteAudit.Php

open RouteAudit.Syntax

/-! ## Text outside the code -/

/-- How many lines the characters break. -/
def lineBreaks (cs : List Char) : Nat := cs.count '\n'

/-- The text up to the next opening tag, and the rest. -/
def textRun : List Char → Split
  | [] => ([], [])
  | '<' :: '?' :: rest => ([], '<' :: '?' :: rest)
  | c :: rest =>
    let (front, rest) := textRun rest
    (c :: front, rest)

/-- The opening tag at the front. -/
def tag? : List Char → Option Split
  | '<' :: '?' :: rest =>
    match rest with
    | '=' :: after => some (['<', '?', '='], after)
    | p :: h :: q :: after =>
      if p.toLower == 'p' && h.toLower == 'h' && q.toLower == 'p' then
        some (['<', '?', p, h, q], after)
      else some (['<', '?'], rest)
    | _ => some (['<', '?'], rest)
  | _ => none

/-- A stretch of text and the tag that ends it. -/
structure Stretch where
  /-- the nodes for the text and the tag, as far as they are there -/
  nodes : List Node
  consumed : List Char
  rest : List Char

/-- The text at the front with the opening tag after it; blank text has no node. -/
def stretch (line : Nat) (cs : List Char) : Stretch :=
  let (text, rest) := textRun cs
  let textLine := line + lineBreaks (text.takeWhile isGap)
  let textNodes := if text.all isGap then [] else [⟨.other "text", textLine, []⟩]
  match tag? rest with
  | some (tag, rest) =>
    ⟨textNodes ++ [⟨.other "php_tag", line + lineBreaks text, []⟩], text ++ tag, rest⟩
  | none => ⟨textNodes, text, rest⟩

/-! ## Modes -/

/-- What is open around the next character; nothing open is code as well. -/
inductive Mode where
  /-- code in braces -/
  | code
  /-- a string with interpolation, or a command, up to its closing mark -/
  | quoted (mark : Char)
  /-- the line break after the opening of a heredoc -/
  | opened (isRaw : Bool) (label : List Char)
  /-- a heredoc, at the start of a line or behind it -/
  | heredoc (label : List Char) (atStart : Bool)
  /-- a raw heredoc -/
  | raw (label : List Char)
  /-- the name after the dollar of an interpolated variable -/
  | name
  /-- the brace after the dollar of an interpolated expression -/
  | brace
  /-- the brackets after an interpolated variable -/
  | index
  /-- the arrow and name after an interpolated variable -/
  | property
  deriving DecidableEq, Repr, Inhabited

/-- What one step of the scanner took, and what is open afterwards. -/
inductive Lexeme where
  /-- blanks or a comment -/
  | gap (text : List Char) (modes : List Mode)
  /-- a closing tag; text and the next opening tag follow -/
  | interlude
  /-- a token, and what was skipped right before it -/
  | token (skipped : List Char) (kind : Kind) (text : List Char) (modes : List Mode)
  deriving Inhabited

/-- The result of a step with the characters after it. -/
abbrev Step := Option (Lexeme × List Char)

/-- A step in code; an operand before a point makes that point an operator. -/
def codeStep (modes : List Mode) (afterOperand : Bool) (cs : List Char) : Step :=
  match cs with
  | [] => none
  | '?' :: '>' :: rest => some (.interlude, rest)
  | c :: rest =>
    if isGap c then some (.gap [c] modes, rest)
    else match comment? cs with
    | some (text, rest) => some (.gap text modes, rest)
    | none =>
      match cs with
      | '\'' :: rest =>
        (singleQuoted rest).map fun (body, rest) =>
          (.token [] (.literal .single) ('\'' :: body) modes, rest)
      | '"' :: rest =>
        match doubleQuoted rest with
        | some (body, rest) => some (.token [] (.literal .double) ('"' :: body) modes, rest)
        | none => some (.token [] .opening ['"'] (.quoted '"' :: modes), rest)
      | '\x60' :: rest => some (.token [] .opening ['\x60'] (.quoted '\x60' :: modes), rest)
      | _ =>
        let binary := if c == 'b' || c == 'B' then rest else []
        match binary with
        | '\'' :: rest =>
          (singleQuoted rest).map fun (body, rest) =>
            (.token [] (.literal .single) (c :: '\'' :: body) modes, rest)
        | '"' :: rest =>
          match doubleQuoted rest with
          | some (body, rest) => some (.token [] (.literal .double) (c :: '"' :: body) modes, rest)
          | none => some (.token [] .opening [c, '"'] (.quoted '"' :: modes), rest)
        | _ =>
          if isNameStart c then
            let (name, rest) := word cs
            some (.token [] .word name modes, rest)
          else
            let number := if afterOperand && c == '.' then none else number? cs
            match number with
            | some (kind, text, rest) => some (.token [] kind text modes, rest)
            | none =>
              match heredocOpening? cs with
              | some (isRaw, label, text, rest) =>
                some (.token [] (.heredoc isRaw) text (.opened isRaw label :: modes), rest)
              | none =>
                (leadingSign? cs).map fun (text, rest) =>
                  let modes := match text, modes with
                    | ['{'], modes => .code :: modes
                    | ['}'], .code :: outer => outer
                    | _, modes => modes
                  (.token [] .sign text modes, rest)

/-- A step inside a string with interpolation, before its end. -/
def templateStep (frame : Frame) (modes : List Mode) (cs : List Char) : Step :=
  match cs with
  | '$' :: '{' :: rest => some (.token [] .sign ['$'] (.brace :: modes), '{' :: rest)
  | '{' :: '$' :: rest => some (.token [] .sign ['{'] (.code :: modes), '$' :: rest)
  | _ =>
    if startsInterpolation cs then some (.token [] .sign ['$'] (.name :: modes), cs.drop 1)
    else match plainRun frame cs with
    | ([], rest) =>
      match rest with
      | '\\' :: _ =>
        let (isEscape, text, rest) := escapeRun rest
        some (.token [] (if isEscape then .escape else .content) text modes, rest)
      | _ => none
    | (text, rest) => if rest.isEmpty then none else some (.token [] .content text modes, rest)

/-- A step of the scanner under a stack of modes. -/
def step (modes : List Mode) (afterOperand : Bool) (cs : List Char) : Step :=
  match modes with
  | [] => codeStep [] afterOperand cs
  | .code :: _ => codeStep modes afterOperand cs
  | .quoted mark :: outer =>
    match cs with
    | c :: rest =>
      if c == mark then some (.token [] .closing [c] outer, rest)
      else templateStep (.quoted mark) modes cs
    | [] => none
  | .opened isRaw label :: outer =>
    match cs with
    | '\r' :: '\n' :: rest => openedStep isRaw label outer ['\r', '\n'] rest
    | c :: rest => if isBreak c then openedStep isRaw label outer [c] rest else none
    | [] => none
  | .heredoc label atStart :: outer =>
    match cs with
    | c :: rest =>
      if isBreak c then some (.gap [c] (.heredoc label true :: outer), rest)
      else if atStart && endsHeredoc label cs then endStep label outer cs
      else templateStep .line (.heredoc label false :: outer) cs
    | [] => none
  | .raw label :: outer =>
    match cs with
    | c :: rest =>
      if isBreak c then some (.gap [c] modes, rest)
      else if endsHeredoc label cs then endStep label outer cs
      else
        let (text, rest) := cs.span fun c => !isBreak c
        some (.token [] .content text modes, rest)
    | [] => none
  | .name :: outer =>
    match word cs with
    | ([], _) => none
    | (name, rest) =>
      let inner := match rest with
        | '[' :: _ => .index :: outer
        | '-' :: '>' :: after => if startsName after then .property :: outer else outer
        | _ => outer
      some (.token [] .word name inner, rest)
  | .brace :: outer =>
    match cs with
    | '{' :: rest => some (.token [] .sign ['{'] (.code :: outer), rest)
    | _ => none
  | .index :: outer =>
    match cs with
    | ']' :: rest => some (.token [] .sign [']'] outer, rest)
    | '[' :: rest => some (.token [] .sign ['['] modes, rest)
    | '-' :: rest => some (.token [] .sign ['-'] modes, rest)
    | '$' :: rest => some (.token [] .sign ['$'] modes, rest)
    | _ =>
      match integer? cs with
      | some (text, rest) => some (.token [] .integer text modes, rest)
      | none =>
        match word cs with
        | ([], _) => none
        | (name, rest) => some (.token [] .word name modes, rest)
  | .property :: outer =>
    match cs with
    | '-' :: '>' :: rest => some (.token [] .sign ['-', '>'] modes, rest)
    | _ =>
      match word cs with
      | ([], _) => none
      | (name, rest) => some (.token [] .word name outer, rest)
where
  /-- The step over the line break that opens a heredoc; a body follows unless the
  label comes first. -/
  openedStep (isRaw : Bool) (label : List Char) (outer : List Mode) (mark rest : List Char) :
      Step :=
    let (blanks, after) := rest.span isGap
    if endsHeredoc label after then
      some (.token (mark ++ blanks) .label label outer, after.drop label.length)
    else
      let inner := if isRaw then Mode.raw label else Mode.heredoc label true
      some (.token [] .body mark (inner :: outer), rest)
  /-- The step over the label that ends a heredoc. -/
  endStep (label : List Char) (outer : List Mode) (cs : List Char) : Step :=
    let (blanks, rest) := cs.span isInlineBlank
    some (.token blanks .label label outer, rest.drop label.length)

/-! ## The scanner -/

/-- What the scanner knows between two steps. -/
structure Scanner where
  modes : List Mode := []
  line : Nat := 1
  /-- blanks and comments since the last token -/
  gap : List Char := []
  /-- stretches of text since the last token, the last one first -/
  interludes : List Node := []
  afterOperand : Bool := false
  /-- the tokens so far, the last one first -/
  tokens : List Token := []

namespace Scanner

/-- Add a token with the gap and the interludes since the last one. -/
def push (s : Scanner) (kind : Kind) (text : List Char) : Scanner :=
  let token : Token :=
    ⟨kind, String.ofList text, s.line, String.ofList s.gap, s.interludes.reverse⟩
  { s with
    line := s.line + lineBreaks text
    gap := []
    interludes := []
    afterOperand := token.endsOperand
    tokens := token :: s.tokens }

/-- Skip blanks or a comment. -/
def skip (s : Scanner) (text : List Char) : Scanner :=
  { s with line := s.line + lineBreaks text, gap := s.gap ++ text }

/-- All tokens from here on, at most as many as the first argument says. -/
def run : Nat → Scanner → List Char → Except Fault (List Token)
  | _, s, [] => .ok (s.push .finish []).tokens.reverse
  | 0, s, _ :: _ => .error ⟨s.line⟩
  | fuel + 1, s, cs =>
    match step s.modes s.afterOperand cs with
    | none => .error ⟨s.line⟩
    | some (.gap text modes, rest) => run fuel { s.skip text with modes := modes } rest
    | some (.token skipped kind text modes, rest) =>
      run fuel { (s.skip skipped).push kind text with modes := modes } rest
    | some (.interlude, rest) =>
      let found := stretch s.line rest
      let node : Node := ⟨.other "text_interpolation", s.line, found.nodes⟩
      run fuel
        { s.skip ('?' :: '>' :: found.consumed) with interludes := node :: s.interludes } found.rest

end Scanner

/-- The nodes before the first code of a file, and its tokens. -/
def tokens (source : String) : Except Fault (List Node × List Token) := do
  let cs := source.toList
  let opening := stretch 1 cs
  let start : Scanner := { line := 1 + lineBreaks opening.consumed }
  let found ← start.run cs.length opening.rest
  return (opening.nodes, found)

end RouteAudit.Php
