/-
  Yaml/Cursor.lean --- walking through the text of YAML.

  WHAT THIS FILE IS FOR.  In YAML the column at which something starts says where it
  belongs, and a key has to stand on one line with its colon.  A cursor is a place in a
  text with its line and column; reading moves it forward.
-/

set_option autoImplicit false

namespace RouteAudit.Yaml

/-! ## Faults -/

/-- Why a text is no YAML. -/
inductive Reason where
  | badIndicator
  | badEscape
  | controlCharacter
  | endOfQuoted
  | expectedListCommaOrEnd
  | expectedMapCommaOrEnd
  | expectedColon
  | expectedValue
  | markerInside
  | misplacedList
  | misplacedMap
  | tabIndentation
  | tooDeep
  | trailing
  deriving DecidableEq, Repr, Inhabited

/-- The wording of a reason. -/
def Reason.text : Reason → String
  | badIndicator => "a value cannot start with this character"
  | badEscape => "unknown escape in a quoted scalar"
  | controlCharacter => "control characters are not allowed"
  | endOfQuoted => "a quoted scalar has no end"
  | expectedListCommaOrEnd => "expected \x60,\x60 or \x60]\x60"
  | expectedMapCommaOrEnd => "expected \x60,\x60 or \x60\x7d\x60"
  | expectedColon => "expected \x60:\x60 behind a key"
  | expectedValue => "expected a value"
  | markerInside => "the document ends inside a value"
  | misplacedList => "a block list cannot start here"
  | misplacedMap => "a block mapping cannot start here"
  | tabIndentation => "a tab cannot indent"
  | tooDeep => "recursion limit exceeded"
  | trailing => "the document goes on behind its value"

/-- A place in a text. -/
structure Cursor where
  rest : List Char
  line : Nat := 1
  column : Nat := 0
  deriving DecidableEq, Repr, Inhabited

/-- A reason and where it arose. -/
structure Fault where
  reason : Reason
  line : Nat
  column : Nat
  deriving DecidableEq, Repr, Inhabited

/-- The fault in words. -/
def Fault.message (f : Fault) : String :=
  f.reason.text ++ " at line " ++ toString f.line ++ " column " ++ toString (f.column + 1)

/-- A reader of a text. -/
abbrev Reader := StateT Cursor (Except Fault)

/-- Fault at this place. -/
def fail {α : Type} (reason : Reason) : Reader α := do
  let here ← get
  throw ⟨reason, here.line, here.column⟩

/-! ## Characters -/

/-- Whether a character separates words on a line. -/
def isGap (c : Char) : Bool := c == ' ' || c == '\t'

/-- Whether nothing, or no visible character, follows. -/
def endsWord : Option Char → Bool
  | none => true
  | some c => isGap c || c == '\n'

namespace Cursor

/-- The next character. -/
def peek? (k : Cursor) : Option Char := k.rest.head?

/-- The character behind the next one. -/
def second? (k : Cursor) : Option Char := (k.rest.drop 1).head?

/-- The place behind some characters of the line. -/
def ahead (k : Cursor) (n : Nat) : Cursor :=
  { k with rest := k.rest.drop n, column := k.column + n }

/-- The place behind the blanks that follow on the line. -/
def pastGap (k : Cursor) : Cursor :=
  k.ahead (k.rest.takeWhile isGap).length

/-- Whether a document is started or ended here. -/
def isMarker (k : Cursor) : Bool :=
  k.column == 0 &&
    (k.rest.take 3 == ['-', '-', '-'] || k.rest.take 3 == ['.', '.', '.']) &&
    endsWord (k.rest.drop 3).head?

/-- Whether an item of a block list starts here. -/
def isDash (k : Cursor) : Bool := k.peek? == some '-' && endsWord k.second?

/-- Whether a colon that ends a key stands here. -/
def isColon (k : Cursor) : Bool := k.peek? == some ':' && endsWord k.second?

/-- Go on to the next character that is no blank and in no comment.  Tabs are blanks
inside brackets, and behind a value on its line. -/
def skipFrom (inFlow : Bool) : Bool → Bool → Nat → Nat → List Char → Cursor
  | _, _, line, column, [] => ⟨[], line, column⟩
  | hasTabs, inComment, line, column, c :: rest =>
    if c = '\n' then skipFrom inFlow inFlow false (line + 1) 0 rest
    else if inComment || c = ' ' || hasTabs && c = '\t' then
      skipFrom inFlow hasTabs inComment line (column + 1) rest
    else if c = '#' then skipFrom inFlow hasTabs true line (column + 1) rest
    else ⟨c :: rest, line, column⟩

end Cursor

/-! ## Moving -/

/-- Take the next character of the line. -/
def skip : Reader Unit := modify (·.ahead 1)

/-- Go on to the next character inside brackets that is no blank and in no comment. -/
def skipInFlow : Reader Unit :=
  modify fun k => k.rest |> Cursor.skipFrom true true false k.line k.column

/-- Go on to the next character outside of brackets that is no blank and in no comment;
`hasTabs` says whether tabs count as blanks on this line. -/
def skipInBlock (hasTabs : Bool) : Reader Unit :=
  modify fun k => k.rest |> Cursor.skipFrom false hasTabs false k.line k.column

end RouteAudit.Yaml
