/-
  Php/Scan.lean --- the character classes and single lexemes of PHP.

  WHAT THIS FILE IS FOR.  Each function looks at the front of the remaining
  characters and splits off one lexeme: a word, a number, a sign, a comment, a
  quoted string, or a run of plain characters inside a string with interpolation.
  What follows is returned untouched.
-/
import RouteAudit.Php.Token

set_option autoImplicit false

namespace RouteAudit.Php

/-! ## Character classes -/

/-- The blanks between tokens. -/
def isGap (c : Char) : Bool :=
  c == ' ' || c == '\t' || c == '\n' || c == '\r' || c == '\x0b' || c == '\x0c' ||
    c == '\u00a0' || c == '\u200b' || c == '\u2060' || c == '\ufeff'

/-- Whether the character breaks a line. -/
def isBreak (c : Char) : Bool := c == '\n' || c == '\r'

/-- Whether a name can start with this character: a letter, an underscore, or any
character from U+0080 to U+FFFF that is no blank. -/
def isNameStart (c : Char) : Bool :=
  c.isAlpha || c == '_' || (0x80 ≤ c.toNat && c.toNat ≤ 0xFFFF && !isGap c)

/-- Whether a name can go on with this character. -/
def isNamePart (c : Char) : Bool := isNameStart c || c.isDigit

/-- Whether the characters start with a name. -/
def startsName : List Char → Bool
  | c :: _ => isNameStart c
  | [] => false

def isHexDigit (c : Char) : Bool :=
  c.isDigit || ('a' ≤ c && c ≤ 'f') || ('A' ≤ c && c ≤ 'F')

def isOctalDigit (c : Char) : Bool := '0' ≤ c && c ≤ '7'

/-! ## Words and numbers -/

/-- A front part of the characters and the rest. -/
abbrev Split := List Char × List Char

/-- The longest name at the front. -/
def word (cs : List Char) : Split :=
  if startsName cs then cs.span isNamePart else ([], cs)

/-- Digits of one class, where a single underscore may stand between two of them. -/
def digits (isDigit : Char → Bool) : List Char → Split
  | [] => ([], [])
  | c :: '_' :: d :: rest =>
    if isDigit c && isDigit d then
      let (front, rest) := digits isDigit (d :: rest)
      (c :: '_' :: front, rest)
    else if isDigit c then ([c], '_' :: d :: rest)
    else ([], c :: '_' :: d :: rest)
  | c :: rest =>
    if isDigit c then
      let (front, rest) := digits isDigit rest
      (c :: front, rest)
    else ([], c :: rest)

/-- The exponent of a float, if the characters start with one. -/
def exponent? (cs : List Char) : Option Split :=
  match cs with
  | e :: rest =>
    if e == 'e' || e == 'E' then
      let (mark, rest) := match rest with
        | '+' :: rest => (['+'], rest)
        | '-' :: rest => (['-'], rest)
        | rest => ([], rest)
      match digits Char.isDigit rest with
      | ([], _) => none
      | (front, rest) => some (e :: mark ++ front, rest)
    else none
  | [] => none

/-- A float at the front: digits with a point, an exponent, or both. -/
def float? (cs : List Char) : Option Split :=
  let (whole, rest) := digits Char.isDigit cs
  match rest with
  | '.' :: rest =>
    let (fraction, rest) := digits Char.isDigit rest
    let front := whole ++ '.' :: fraction
    match exponent? rest with
    | some (power, rest) => some (front ++ power, rest)
    | none => if whole.isEmpty && fraction.isEmpty then none else some (front, rest)
  | rest =>
    if whole.isEmpty then none
    else (exponent? rest).map fun (power, rest) => (whole ++ power, rest)

/-- An integer at the front: decimal, octal, hexadecimal or binary. -/
def integer? (cs : List Char) : Option Split :=
  match cs with
  | '0' :: x :: rest =>
    if x == 'x' || x == 'X' then
      match digits isHexDigit rest with
      | ([], _) => some (['0'], x :: rest)
      | (front, rest) => some ('0' :: x :: front, rest)
    else if x == 'b' || x == 'B' then
      match digits (fun c => c == '0' || c == '1') rest with
      | ([], _) => some (['0'], x :: rest)
      | (front, rest) => some ('0' :: x :: front, rest)
    else if x == 'o' || x == 'O' then
      let (front, rest) := digits isOctalDigit rest
      some ('0' :: x :: front, rest)
    else some (digits isOctalDigit cs)
  | c :: _ => if c.isDigit then some (digits Char.isDigit cs) else none
  | [] => none

/-- The number at the front, the longer of the two readings. -/
def number? (cs : List Char) : Option (Kind × Split) :=
  match float? cs, integer? cs with
  | some f, some i => if i.1.length < f.1.length then some (.float, f) else some (.integer, i)
  | some f, none => some (.float, f)
  | none, some i => some (.integer, i)
  | none, none => none

/-! ## Signs -/

/-- The signs of more than one character, longer ones first. -/
def longSigns : List String :=
  ["===", "!==", "<=>", "**=", "...", "<<=", ">>=", "??=", "?->",
   "++", "--", "->", "=>", "::", "==", "!=", "<>", "<=", ">=", "&&", "||", "??", "<<", ">>",
   "+=", "-=", "*=", "/=", ".=", "%=", "&=", "|=", "^=", "**", "#["]

/-- The signs of one character. -/
def shortSigns : List Char := ";,.+-*/%&|^~!@=<>?:()[]\x7b\x7d$\\".toList

/-- The longest sign at the front. -/
def leadingSign? (cs : List Char) : Option Split :=
  match longSigns.find? fun s => s.toList.isPrefixOf cs with
  | some s => some (s.toList, cs.drop s.length)
  | none =>
    match cs with
    | c :: rest => if shortSigns.contains c then some ([c], rest) else none
    | [] => none

/-! ## Comments -/

/-- The rest of a comment that runs to the end of the line.  It stops before a closing
tag, unless another question mark stands before that. -/
def lineComment : List Char → Split
  | [] => ([], [])
  | '?' :: rest =>
    match rest with
    | [] => ([], ['?'])
    | '>' :: more => ([], '?' :: '>' :: more)
    | '\n' :: more => (['?', '\n'], more)
    | '\r' :: '\n' :: more => (['?', '\r', '\n'], more)
    | '\r' :: more => ([], '?' :: '\r' :: more)
    | c :: more =>
      let (front, rest) := lineComment more
      ('?' :: c :: front, rest)
  | c :: rest =>
    if isBreak c then ([], c :: rest)
    else
      let (front, rest) := lineComment rest
      (c :: front, rest)

/-- The rest of a comment up to its closing mark, which must come. -/
def blockComment : List Char → Option Split
  | [] => none
  | '*' :: '/' :: rest => some (['*', '/'], rest)
  | c :: rest => (blockComment rest).map fun (front, rest) => (c :: front, rest)

/-- The comment at the front. -/
def comment? : List Char → Option Split
  | '/' :: '/' :: rest =>
    let (front, rest) := lineComment rest
    some ('/' :: '/' :: front, rest)
  | '/' :: '*' :: rest => (blockComment rest).map fun (front, rest) => ('/' :: '*' :: front, rest)
  | '#' :: c :: rest =>
    if c == '[' then none
    else if c == '?' || isBreak c then some (['#'], c :: rest)
    else
      let (front, rest) := lineComment rest
      some ('#' :: c :: front, rest)
  | ['#'] => some (['#'], [])
  | _ => none

/-! ## Strings -/

/-- The rest of a string in single quotes, closing quote included. -/
def singleQuoted : List Char → Option Split
  | [] => none
  | '\'' :: rest => some (['\''], rest)
  | '\\' :: c :: rest => (singleQuoted rest).map fun (front, rest) => ('\\' :: c :: front, rest)
  | c :: rest => (singleQuoted rest).map fun (front, rest) => (c :: front, rest)

/-- Whether an interpolation starts at the front. -/
def startsInterpolation : List Char → Bool
  | '$' :: c :: _ => isNameStart c || c == '{'
  | '{' :: '$' :: _ => true
  | _ => false

/-- The rest of a string in double quotes that has no interpolation, closing quote
included; nothing if there is one, or no closing quote. -/
def doubleQuoted : List Char → Option Split
  | [] => none
  | '"' :: rest => some (['"'], rest)
  | '\\' :: c :: rest => (doubleQuoted rest).map fun (front, rest) => ('\\' :: c :: front, rest)
  | c :: rest =>
    if startsInterpolation (c :: rest) then none
    else (doubleQuoted rest).map fun (front, rest) => (c :: front, rest)

/-- Where a run of plain characters stands. -/
inductive Frame where
  /-- between this quote or backtick and the next -/
  | quoted (mark : Char)
  /-- on one line of a heredoc -/
  | line
  deriving DecidableEq, Repr, Inhabited

/-- Whether a backslash before these characters starts an escape. -/
def isEscape (frame : Frame) : List Char → Bool
  | 'x' :: c :: _ => isHexDigit c
  | c :: _ =>
    (c == '\\' && frame != .line) || c == 'n' || c == 'r' || c == 't' || c == 'v' || c == 'e' ||
      c == 'f' || c == '$' || c == '"' || c == 'u' || isOctalDigit c ||
      frame == .quoted '\x60' && c == '\x60'
  | [] => false

/-- The longest run of plain characters. -/
def plainRun (frame : Frame) : List Char → Split
  | [] => ([], [])
  | '\\' :: '{' :: rest =>
    let (front, rest) := plainRun frame rest
    ('\\' :: '{' :: front, rest)
  | '\\' :: '\\' :: rest =>
    if isEscape frame ('\\' :: rest) then ([], '\\' :: '\\' :: rest)
    else
      let (front, rest) := plainRun frame rest
      ('\\' :: '\\' :: front, rest)
  | '\\' :: rest =>
    if isEscape frame rest then ([], '\\' :: rest)
    else
      let (front, rest) := plainRun frame rest
      ('\\' :: front, rest)
  | c :: rest =>
    let stops := match frame with
      | .quoted mark => c == mark
      | .line => isBreak c
    if stops || startsInterpolation (c :: rest) then ([], c :: rest)
    else
      let (front, rest) := plainRun frame rest
      (c :: front, rest)

/-- The escape at the front, which starts with a backslash, and whether it stands for
one character; a backslash and `u` without a code point are plain. -/
def escapeRun : List Char → Bool × Split
  | '\\' :: 'x' :: rest =>
    let front := (rest.take 2).takeWhile isHexDigit
    (true, '\\' :: 'x' :: front, rest.drop front.length)
  | '\\' :: 'u' :: rest =>
    match rest with
    | '{' :: more =>
      let (hex, after) := more.span isHexDigit
      match hex, after with
      | _ :: _, '}' :: after => (true, '\\' :: 'u' :: '{' :: hex ++ ['}'], after)
      | _, _ => (false, ['\\', 'u'], rest)
    | _ => (false, ['\\', 'u'], rest)
  | '\\' :: c :: rest =>
    if isOctalDigit c then
      let front := ((c :: rest).take 3).takeWhile isOctalDigit
      (true, '\\' :: front, (c :: rest).drop front.length)
    else (true, ['\\', c], rest)
  | cs => (true, cs.take 1, cs.drop 1)

/-! ## Heredocs -/

/-- Blanks that do not break the line. -/
def isInlineBlank (c : Char) : Bool :=
  c == ' ' || c == '\t' || c == '\x0b' || c == '\x0c'

/-- The opening of a heredoc at the front: whether it is raw, its label, its text and
the rest. -/
def heredocOpening? : List Char → Option (Bool × List Char × Split)
  | '<' :: '<' :: '<' :: rest =>
    let (blanks, rest) := rest.span isInlineBlank
    let start := ['<', '<', '<'] ++ blanks
    match rest with
    | '\'' :: more =>
      match word more with
      | (label@(_ :: _), '\'' :: after) => some (true, label, start ++ '\'' :: label ++ ['\''], after)
      | _ => none
    | '"' :: more =>
      match word more with
      | (label@(_ :: _), '"' :: after) => some (false, label, start ++ '"' :: label ++ ['"'], after)
      | _ => none
    | _ =>
      match word rest with
      | (label@(_ :: _), after) => some (false, label, start ++ label, after)
      | _ => none
  | _ => none

/-- Whether a heredoc with this label ends at the start of a line: the label, set in
any number of blanks, and after it a semicolon, comma, parenthesis or line break. -/
def endsHeredoc (label cs : List Char) : Bool :=
  let rest := cs.dropWhile isInlineBlank
  label.isPrefixOf rest &&
    match (rest.drop label.length).dropWhile isInlineBlank with
    | c :: _ => c == ';' || c == ',' || c == ')' || isBreak c
    | [] => false

end RouteAudit.Php
