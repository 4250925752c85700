/-
  Syntax/Literal.lean --- the value of a quoted PHP string.

  WHAT THIS FILE IS FOR.  Route names reach the tree as string literals.  Their
  value is the text between the quotes with a few escapes decoded: in single
  quotes the backslash and the quote, in double quotes also newline, tab and
  dollar.  Any other backslash stands for itself.

  BESIDE IT.  `encode` writes a value with every special character escaped; it
  is the printer that `decode` undoes.
-/

set_option autoImplicit false

namespace RouteAudit.Syntax

/-- The two kinds of quotes a literal is written in. -/
inductive Quote where
  | single
  | double
  deriving DecidableEq, Repr, Inhabited

namespace Quote

/-- The character that opens and closes the literal. -/
def mark : Quote → Char
  | .single => '\''
  | .double => '"'

/-- What a backslash and this character stand for together, if they are an escape. -/
def escaped? : Quote → Char → Option Char
  | .single, c => if c = '\\' ∨ c = '\'' then some c else none
  | .double, c =>
    if c = '\\' ∨ c = '"' ∨ c = '$' then some c
    else if c = 'n' then some '\n'
    else if c = 't' then some '\t'
    else none

/-- The value of the characters between the quotes. -/
def decode (q : Quote) : List Char → List Char
  | [] => []
  | '\\' :: c :: rest =>
    match q.escaped? c with
    | some value => value :: decode q rest
    | none => '\\' :: c :: decode q rest
  | c :: rest => c :: decode q rest

/-- Whether a character is written with a backslash before it. -/
def isSpecial (q : Quote) (c : Char) : Bool :=
  c == '\\' || c == q.mark || (q == .double && c == '$')

/-- The characters between the quotes of a literal with the given value. -/
def encode (q : Quote) : List Char → List Char
  | [] => []
  | c :: rest => if q.isSpecial c then '\\' :: c :: encode q rest else c :: encode q rest

/-- The text without its first and last character, if both are the quote. -/
def inner? (q : Quote) : List Char → Option (List Char)
  | [] => none
  | c :: rest =>
    if c = q.mark ∧ rest.getLast? = some q.mark then some rest.dropLast else none

/-- The value of a literal with its quotes, if the text is quoted at both ends. -/
def value? (q : Quote) (text : List Char) : Option String :=
  (q.inner? text).map fun body => String.ofList (q.decode body)

end Quote

end RouteAudit.Syntax
