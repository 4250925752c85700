/-
  Yaml/Text.lean --- the scalars of YAML as they are written.

  WHAT THIS FILE IS FOR.  A scalar may run over several lines.  One line break inside it
  counts as a space, and of several the first one counts for nothing; blanks around
  them count for nothing.
-/
import RouteAudit.Text.Digit
import RouteAudit.Yaml.Cursor

set_option autoImplicit false

namespace RouteAudit.Yaml

/-! ## Gaps -/

/-- What stands between the visible characters of a scalar. -/
inductive Gap where
  | none
  /-- blanks of one line, last one first -/
  | blanks (cs : List Char)
  /-- so many line breaks, and whether the first one was escaped -/
  | breaks (n : Nat) (isEscaped : Bool)
  deriving DecidableEq, Repr, Inhabited

namespace Gap

/-- The characters that a gap counts for. -/
def chars : Gap → List Char
  | .none => []
  | .blanks cs => cs.reverse
  | .breaks n isEscaped =>
    if n = 1 && !isEscaped then [' '] else List.replicate (n - 1) '\n'

/-- The gap with one more blank. -/
def addBlank (c : Char) : Gap → Gap
  | .none => .blanks [c]
  | .blanks cs => .blanks (c :: cs)
  | .breaks n isEscaped => .breaks n isEscaped

/-- The gap with one more line break. -/
def addBreak : Gap → Gap
  | .breaks n isEscaped => .breaks (n + 1) isEscaped
  | _ => .breaks 1 false

/-- Whether the gap reaches to another line. -/
def hasBreak : Gap → Bool
  | .breaks _ _ => true
  | _ => false

end Gap

/-! ## Without quotes -/

/-- The characters with a meaning of their own at the start of a value. -/
def indicators : List Char :=
  ['-', '?', ':', ',', '[', ']', '\x7b', '\x7d', '#', '&', '*', '!', '|', '>', '\'', '"', '%', '@',
    '\x60']

/-- The characters that end a scalar inside brackets. -/
def flowIndicators : List Char := [',', '[', ']', '\x7b', '\x7d']

/-- Whether a scalar without quotes can start here. -/
def Cursor.startsPlain (k : Cursor) (inFlow : Bool) : Bool :=
  match k.peek? with
  | none => false
  | some '-' => !endsWord k.second?
  | some c =>
    if c = '?' ∨ c = ':' then !inFlow && !endsWord k.second?
    else !endsWord (some c) && !indicators.contains c

/-- Whether a scalar without quotes ends before this character. -/
def endsPlain (inFlow : Bool) (c : Char) (next : Option Char) : Bool :=
  c == ':' && endsWord next || inFlow && flowIndicators.contains c

/-- The rest of a scalar without quotes; `done` are its characters so far, last one
first.  Outside of brackets, a further line has to start at the column `least` or behind
it. -/
def plainRest (inFlow : Bool) (least : Nat) (done : List Char) (gap : Gap) (line column : Nat) :
    List Char → Except Fault (String × Cursor)
  | [] => .ok (String.ofList done.reverse, ⟨[], line, column⟩)
  | c :: rest =>
    let stop := .ok (String.ofList done.reverse, ⟨c :: rest, line, column⟩)
    let isFresh := gap ≠ .none
    if c = '\n' then plainRest inFlow least done gap.addBreak (line + 1) 0 rest
    else if isGap c then
      if gap.hasBreak && column < least && c = '\t' then .error ⟨.tabIndentation, line, column⟩
      else plainRest inFlow least done (gap.addBlank c) line (column + 1) rest
    else if isFresh && gap.hasBreak && !inFlow && column < least then stop
    else if isFresh && (c = '#' || (⟨c :: rest, line, column⟩ : Cursor).isMarker) then stop
    else if inFlow && c = ':' && rest.head?.any ('?' :: flowIndicators).contains then
      .error ⟨.badIndicator, line, column⟩
    else if endsPlain inFlow c rest.head? then stop
    else
      plainRest inFlow least (c :: (gap.chars.reverse ++ done)) .none line (column + 1) rest

/-- A scalar without quotes. -/
def plain (inFlow : Bool) (least : Nat) : Reader String := fun k =>
  if k.startsPlain inFlow then plainRest inFlow least [] .none k.line k.column k.rest
  else .error ⟨.badIndicator, k.line, k.column⟩

/-! ## In quotes -/

/-- The character of an escape by a single letter. -/
def escapeLetters : List (Char × Char) :=
  [('0', '\x00'), ('a', '\x07'), ('b', '\x08'), ('t', '\t'), ('\t', '\t'), ('n', '\n'),
    ('v', '\x0b'), ('f', '\x0c'), ('r', '\r'), ('e', '\x1b'), (' ', ' '), ('"', '"'), ('/', '/'),
    ('\\', '\\'), ('N', '\u0085'), ('_', '\u00a0'), ('L', '\u2028'), ('P', '\u2029')]

/-- The number of digits of an escape by number. -/
def escapeWidth? : Char → Option Nat
  | 'x' => some 2
  | 'u' => some 4
  | 'U' => some 8
  | _ => none

/-- The character of an escape, from its letter on, and how many characters it takes. -/
def escape? (letter : Char) (rest : List Char) : Option (Char × Nat) :=
  match escapeLetters.lookup letter, escapeWidth? letter with
  | some c, _ => some (c, 1)
  | none, some width => do
    let digits := rest.take width
    let n ← if digits.length = width then Text.numberIn? 16 digits else none
    if n.isValidChar then some (Char.ofNat n, width + 1) else none
  | none, none => none

/-- The rest of a scalar in quotes, with a bound on the steps; `done` are its characters
so far, last one first. -/
def quotedRest (quote : Char) : Nat → List Char → Gap → Cursor → Except Fault (String × Cursor)
  | 0, _, _, k => .error ⟨.endOfQuoted, k.line, k.column⟩
  | fuel + 1, done, gap, k =>
    let flushed := gap.chars.reverse ++ done
    match k.rest with
    | [] => .error ⟨.endOfQuoted, k.line, k.column⟩
    | c :: rest =>
      if k.isMarker then .error ⟨.markerInside, k.line, k.column⟩
      else if c = '\n' then quotedRest quote fuel done gap.addBreak ⟨rest, k.line + 1, 0⟩
      else if isGap c then quotedRest quote fuel done (gap.addBlank c) (k.ahead 1)
      else if c = quote then
        if quote = '\'' && rest.head? = some '\'' then
          quotedRest quote fuel ('\'' :: flushed) .none (k.ahead 2)
        else .ok (String.ofList flushed.reverse, k.ahead 1)
      else if c = '\\' && quote = '"' then
        match rest with
        | [] => .error ⟨.endOfQuoted, k.line, k.column⟩
        | '\n' :: more => quotedRest quote fuel flushed (.breaks 1 true) ⟨more, k.line + 1, 0⟩
        | letter :: more =>
          match escape? letter more with
          | some (escaped, width) =>
            quotedRest quote fuel (escaped :: flushed) .none (k.ahead (width + 1))
          | none => .error ⟨.badEscape, k.line, k.column⟩
      else quotedRest quote fuel (c :: flushed) .none (k.ahead 1)

/-- A scalar in quotes, from its quote on. -/
def quoted (quote : Char) : Reader String := fun k =>
  quotedRest quote k.rest.length [] .none (k.ahead 1)

end RouteAudit.Yaml
