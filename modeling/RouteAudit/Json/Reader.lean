/-
  Json/Reader.lean --- from text to JSON values.

  WHAT THIS FILE IS FOR.  A text that is no JSON is refused with the reason and the
  place: the line and the number of bytes before the place on that line.  A fault at a
  character that was looked at and not taken is placed behind its first byte.

  DEPTH.  Arrays and objects nest at most 127 deep, which also bounds the recursion.
-/
import RouteAudit.Json.Basic
import RouteAudit.Text.Digit
import RouteAudit.Word

set_option autoImplicit false

namespace RouteAudit.Json

/-! ## Faults -/

/-- Why a text is no JSON. -/
inductive Reason where
  | endOfList
  | endOfObject
  | endOfString
  | endOfValue
  | expectedColon
  | expectedListCommaOrEnd
  | expectedObjectCommaOrEnd
  | expectedWord
  | expectedValue
  | invalidEscape
  | invalidNumber
  | numberOutOfRange
  | controlCharacter
  | keyNotString
  | loneSurrogate
  | trailingComma
  | trailingCharacters
  | endOfSurrogate
  | tooDeep
  /-- the text is JSON, but not of the wanted shape -/
  | shape (message : String)
  deriving DecidableEq, Repr, Inhabited

/-- The wording of a reason. -/
def Reason.text : Reason → String
  | endOfList => "EOF while parsing a list"
  | endOfObject => "EOF while parsing an object"
  | endOfString => "EOF while parsing a string"
  | endOfValue => "EOF while parsing a value"
  | expectedColon => "expected \x60:\x60"
  | expectedListCommaOrEnd => "expected \x60,\x60 or \x60]\x60"
  | expectedObjectCommaOrEnd => "expected \x60,\x60 or \x60\x7d\x60"
  | expectedWord => "expected ident"
  | expectedValue => "expected value"
  | invalidEscape => "invalid escape"
  | invalidNumber => "invalid number"
  | numberOutOfRange => "number out of range"
  | controlCharacter => "control character (\\u0000-\\u001F) found while parsing a string"
  | keyNotString => "key must be a string"
  | loneSurrogate => "lone leading surrogate in hex escape"
  | trailingComma => "trailing comma"
  | trailingCharacters => "trailing characters"
  | endOfSurrogate => "unexpected end of hex escape"
  | tooDeep => "recursion limit exceeded"
  | shape message => message

/-- A reason, the text from the place on, and how many bytes behind that place the
fault is reported. -/
structure Failure where
  reason : Reason
  rest : List Char
  ahead : Nat
  deriving Repr, Inhabited

/-- The number of bytes of a text. -/
def byteCount (cs : List Char) : Nat := cs.foldr (fun c n => c.utf8Size + n) 0

/-- The line and the column of the byte with this index. -/
def placeOf (source : String) (index : Nat) : Nat × Nat :=
  let before := source.toUTF8.toList.take index
  let column := (before.reverse.takeWhile (· ≠ 10)).length
  (1 + before.count 10, column)

/-- The wording of a fault in the given text. -/
def Failure.message (f : Failure) (source : String) : String :=
  let total := byteCount source.toList
  let (line, column) := placeOf source (min total (total - byteCount f.rest + f.ahead))
  f.reason.text ++ " at line " ++ toString line ++ " column " ++ toString column

/-- A reader of characters. -/
abbrev CharReader := StateT (List Char) (Except Failure)

/-- Fault at this place, or some bytes behind it. -/
def failAt {α : Type} (reason : Reason) (rest : List Char) (ahead : Nat) : CharReader α :=
  throw ⟨reason, rest, ahead⟩

/-- Fault here. -/
def failHere {α : Type} (reason : Reason) : CharReader α := do
  failAt reason (← get) 0

/-- Fault at the next character, which was only looked at. -/
def failNext {α : Type} (reason : Reason) : CharReader α := do
  failAt reason (← get) 1

/-! ## Characters -/

/-- The next character. -/
def peek? : CharReader (Option Char) := do
  return (← get).head?

/-- Take the next character. -/
def skip : CharReader Unit := modify (·.drop 1)

/-- Whether the character may stand between tokens. -/
def isSpace (c : Char) : Bool := c == ' ' || c == '\n' || c == '\t' || c == '\r'

/-- Skip blanks and look at what follows. -/
def peekToken? : CharReader (Option Char) := do
  modify (·.dropWhile isSpace)
  peek?

/-- Take the rest of a word. -/
def expectWord : List Char → CharReader Unit
  | [] => return ()
  | c :: more => do
    match ← get with
    | [] => failHere .endOfValue
    | d :: rest =>
      set rest
      if d = c then expectWord more else failHere .expectedWord

/-! ## Strings -/

/-- Take four hexadecimal digits. -/
def hexUnit : CharReader Nat := do
  let cs ← get
  if byteCount cs < 4 then failAt .endOfString [] 0
  match (cs.take 4).mapM Text.hexValue? with
  | some [a, b, c, d] =>
    set (cs.drop 4)
    return ((a * 16 + b) * 16 + c) * 16 + d
  | _ => failAt .invalidEscape cs 4

/-- Take a character inside an escape, which must not be at the end of the text. -/
def takeEscaped : CharReader Char := do
  match ← get with
  | [] => failHere .endOfString
  | c :: rest =>
    set rest
    return c

/-- Take the character that must come inside a pair of surrogates. -/
def expectEscaped (wanted : Char) : CharReader Unit := do
  match ← get with
  | [] => failHere .endOfString
  | c :: rest => if c = wanted then set rest else failAt .endOfSurrogate (c :: rest) 1

/-- The character of an escape by number, behind the letter. -/
def unicodeEscape : CharReader Char := do
  let first ← hexUnit
  if 0xDC00 ≤ first ∧ first ≤ 0xDFFF then failHere .loneSurrogate
  else if 0xD800 ≤ first ∧ first ≤ 0xDBFF then
    expectEscaped '\\'
    expectEscaped 'u'
    let second ← hexUnit
    if second < 0xDC00 ∨ 0xDFFF < second then failHere .loneSurrogate
    return Char.ofNat (0x10000 + (first - 0xD800) * 0x400 + (second - 0xDC00))
  else return Char.ofNat first

/-- The character of an escape, behind the backslash. -/
def escape : CharReader Char := do
  let before ← get
  match ← takeEscaped with
  | '"' => return '"'
  | '\\' => return '\\'
  | '/' => return '/'
  | 'b' => return '\x08'
  | 'f' => return '\x0c'
  | 'n' => return '\n'
  | 'r' => return '\r'
  | 't' => return '\t'
  | 'u' => unicodeEscape
  | _ => failAt .invalidEscape before 1

/-- The rest of a string behind its opening quote, and what was read of it, last
character first. -/
def stringRest : Nat → List Char → CharReader String
  | 0, _ => failHere .endOfString
  | fuel + 1, done => do
    match ← get with
    | [] => failHere .endOfString
    | '"' :: rest =>
      set rest
      return String.ofList done.reverse
    | '\\' :: rest =>
      set rest
      let c ← escape
      stringRest fuel (c :: done)
    | c :: rest =>
      set rest
      if c.toNat < 0x20 then failHere .controlCharacter
      stringRest fuel (c :: done)

/-- A string behind its opening quote. -/
def stringBody : CharReader String := do
  stringRest ((← get).length + 1) []

/-! ## Numbers -/

/-- The greatest exponent that is kept exactly. -/
def maxExponent : Nat := 2147483647

/-- A significand scaled by a power of ten, at most so many steps.  Powers beyond the
greatest one are divided out step by step, so very long numbers may be off by the last
bit. -/
def scaleFloat : Nat → Float → Int → CharReader Float
  | 0, x, _ => return x
  | steps + 1, x, exponent => do
    let power := Float.ofScientific 1 false exponent.natAbs
    if exponent.natAbs ≤ 308 then
      if 0 ≤ exponent then
        let y := x * power
        if y.isInf then failHere .numberOutOfRange
        return y
      else return x / power
    else if x == 0.0 then return x
    else if 0 ≤ exponent then failHere .numberOutOfRange
    else scaleFloat steps (x / 1e308) (exponent + 308)

/-- The number with this significand and exponent. -/
def floatOf (isNegative : Bool) (significand : Nat) (exponent : Int) : CharReader Json := do
  let x ← scaleFloat 8 (UInt64.ofNat significand).toFloat exponent
  return .float (if isNegative then -x else x)

/-- Take all digits that follow. -/
def takeDigits : CharReader (List Char) := do
  let (digits, rest) := (← get).span Char.isDigit
  set rest
  return digits

/-- The value of digits. -/
def valueOf (digits : List Char) : Nat :=
  digits.foldl (fun n c => 10 * n + (c.toNat - '0'.toNat)) 0

/-- Take digits as long as the significand stays within 64 bits; the significand and
the digits that were not taken into it. -/
def growSignificand (significand : Nat) : List Char → Nat × List Char
  | [] => (significand, [])
  | c :: rest =>
    let next := 10 * significand + (c.toNat - '0'.toNat)
    if Word.greatestUnsigned < next then (significand, c :: rest) else growSignificand next rest

/-- The digits behind the one with which their value exceeds the greatest exponent. -/
def afterOverflow (value : Nat) : List Char → List Char
  | [] => []
  | c :: rest =>
    let next := 10 * value + (c.toNat - '0'.toNat)
    if maxExponent < next then rest else afterOverflow next rest

/-- The exponent of a number, from its letter on. -/
def exponentPart (isNegative : Bool) (significand : Nat) (start : Int) : CharReader Json := do
  skip
  let isSmall ←
    match ← peek? with
    | some '+' => do skip; pure false
    | some '-' => do skip; pure true
    | _ => pure false
  match ← get with
  | [] => failHere .endOfValue
  | c :: rest =>
    if !c.isDigit then failAt .invalidNumber (c :: rest) 1
  let before ← get
  let digits ← takeDigits
  let value := valueOf digits
  if maxExponent < value then
    if significand ≠ 0 ∧ !isSmall then
      failAt .numberOutOfRange (afterOverflow 0 before) 0
    return .float (if isNegative then -0.0 else 0.0)
  floatOf isNegative significand (if isSmall then start - value else start + value)

/-- The digits behind the point, from the point on. -/
def fractionPart (isNegative : Bool) (significand : Nat) (start : Int) : CharReader Json := do
  skip
  let digits ← takeDigits
  if digits.isEmpty then
    match ← peek? with
    | some _ => failNext .invalidNumber
    | none => failNext .endOfValue
  let (grown, dropped) := growSignificand significand digits
  let exponent := start - (digits.length - dropped.length : Nat)
  match ← peek? with
  | some 'e' | some 'E' => exponentPart isNegative grown exponent
  | _ => floatOf isNegative grown exponent

/-- A number behind its sign. -/
def number (isNegative : Bool) : CharReader Json := do
  let cs ← get
  match cs with
  | [] => failHere .endOfValue
  | c :: rest =>
    if !c.isDigit then failAt .invalidNumber cs 1
    if c = '0' then
      match rest with
      | d :: _ => if d.isDigit then failAt .invalidNumber rest 1
      | [] => pure ()
  let digits ← takeDigits
  let (grown, dropped) := growSignificand 0 digits
  let isLong := !dropped.isEmpty
  match ← peek? with
  | some '.' => fractionPart isNegative grown dropped.length
  | some 'e' | some 'E' => exponentPart isNegative grown dropped.length
  | _ =>
    if isLong then floatOf isNegative grown dropped.length
    else if !isNegative then return .int grown
    else if grown = 0 ∨ Word.greatest.toNat + 1 < grown then return .float (-(UInt64.ofNat grown).toFloat)
    else return .int (-(grown : Int))

/-! ## Values -/

/-- The items of an array behind its bracket, with a bound on their number. -/
def itemsRest (item : CharReader Json) : Nat → Bool → CharReader (List Json)
  | 0, _ => failHere .endOfList
  | fuel + 1, isFirst => do
    match ← peekToken? with
    | none => failNext .endOfList
    | some ']' =>
      skip
      return []
    | some c =>
      if !isFirst then
        if c ≠ ',' then failNext .expectedListCommaOrEnd
        skip
        match ← peekToken? with
        | some ']' => failNext .trailingComma
        | some _ => pure ()
        | none => failNext .endOfValue
      let first ← item
      return first :: (← itemsRest item fuel false)

/-- The members of an object behind its brace, with a bound on their number. -/
def membersRest (item : CharReader Json) : Nat → Bool → CharReader (List (String × Json))
  | 0, _ => failHere .endOfObject
  | fuel + 1, isFirst => do
    match ← peekToken? with
    | none => failNext .endOfObject
    | some '}' =>
      skip
      return []
    | some c =>
      if isFirst then
        if c ≠ '"' then failNext .keyNotString
      else
        if c ≠ ',' then failNext .expectedObjectCommaOrEnd
        skip
        match ← peekToken? with
        | some '"' => pure ()
        | some '}' => failNext .trailingComma
        | some _ => failNext .keyNotString
        | none => failNext .endOfValue
      skip
      let key ← stringBody
      match ← peekToken? with
      | some ':' => skip
      | some _ => failNext .expectedColon
      | none => failNext .endOfObject
      let value ← item
      return (key, value) :: (← membersRest item fuel false)

/-- A value that nests less deep than the bound. -/
def value : Nat → CharReader Json
  | 0 => failNext .tooDeep
  | depth + 1 => do
    match ← peekToken? with
    | none => failNext .endOfValue
    | some 'n' =>
      skip
      expectWord ['u', 'l', 'l']
      return .null
    | some 't' =>
      skip
      expectWord ['r', 'u', 'e']
      return .bool true
    | some 'f' =>
      skip
      expectWord ['a', 'l', 's', 'e']
      return .bool false
    | some '-' =>
      skip
      number true
    | some '"' =>
      skip
      return .string (← stringBody)
    | some '[' =>
      if depth = 0 then failNext .tooDeep
      skip
      return .array (← itemsRest (value depth) ((← get).length + 1) true)
    | some '{' =>
      if depth = 0 then failNext .tooDeep
      skip
      return .object (← membersRest (value depth) ((← get).length + 1) true)
    | some c => if c.isDigit then number false else failNext .expectedValue

/-- How deep values may nest. -/
def maxDepth : Nat := 128

/-- Blanks up to the end of the text. -/
def atEnd : CharReader Unit := do
  match ← peekToken? with
  | none => return ()
  | some _ => failNext .trailingCharacters

/-- What a reader finds in a text, or the wording of the fault. -/
def run {α : Type} (reader : CharReader α) (source : String) : Except String α :=
  match reader.run source.toList with
  | .ok (a, _) => .ok a
  | .error f => .error (f.message source)

/-- The value that a text stands for, its members in the order written. -/
def parse (source : String) : Except String Json :=
  run (do let v ← value maxDepth; atEnd; return v) source

end RouteAudit.Json
