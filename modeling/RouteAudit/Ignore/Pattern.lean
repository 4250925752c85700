/-
  Ignore/Pattern.lean --- patterns of route names.

  WHAT THIS FILE IS FOR.  A pattern matches whole names.  A star stands for any
  characters and everything else for itself.  Two stars next to slashes stand for whole
  segments: `**/` at the start for any segments before, `/**` at the end for any behind,
  and `/**/` in between for any segments or none.
-/

set_option autoImplicit false

namespace RouteAudit.Ignore

/-- A part of a pattern. -/
inductive Token where
  | char (c : Char)
  /-- any characters -/
  | any
  /-- nothing, a slash, or any characters and a slash -/
  | before
  /-- a slash and any characters -/
  | behind
  /-- a slash, or two slashes and any characters between them -/
  | between
  deriving DecidableEq, Repr, Inhabited

/-! ## Reading a pattern -/

/-- Put a recursive part in the place of the slash before it; one after another one
counts once. -/
def placeRecursive (part : Token) : List Token → List Token
  | .before :: rest => .before :: rest
  | .behind :: rest => .behind :: rest
  | _ :: rest => part :: rest
  | [] => [part]

/-- Whether two stars stand for whole segments if the pattern ends or a slash comes behind
them: at the start and behind a slash. -/
def startsSegment (done : List Token) (last : Option Char) : Bool :=
  done.isEmpty || last == some '/'

/-- Two stars that stand for whole segments. -/
def pushRecursive (part : Token) (done : List Token) : List Token :=
  if done.isEmpty then [.before] else placeRecursive part done

/-- Read a pattern.  The tokens so far come last one first; `last` is the character
before. -/
def readTokens (done : List Token) (last : Option Char) : List Char → List Token
  | [] => done.reverse
  | ['*', '*'] =>
    if startsSegment done last then (pushRecursive .behind done).reverse
    else (.any :: done).reverse
  | '*' :: '*' :: '/' :: rest =>
    if startsSegment done last then readTokens (pushRecursive .between done) (some '/') rest
    else readTokens (.char '/' :: .any :: done) (some '/') rest
  | '*' :: '*' :: rest => readTokens (.any :: done) (some '*') rest
  | '*' :: rest => readTokens (.any :: done) (some '*') rest
  | c :: rest => readTokens (.char c :: done) (some c) rest

/-- The parts of a pattern. -/
def tokens (pattern : String) : List Token := readTokens [] none pattern.toList

/-! ## Matching -/

/-- A list and everything that is left of it when characters are dropped in front. -/
def tails : List Char → List (List Char)
  | [] => [[]]
  | c :: rest => (c :: rest) :: tails rest

/-- What is left behind a slash, wherever the slash stands. -/
def behindSlashes : List Char → List (List Char)
  | [] => []
  | c :: rest => if c = '/' then rest :: behindSlashes rest else behindSlashes rest

/-- What may be left of a text when a part has taken its share in front. -/
def Token.rests : Token → List Char → List (List Char)
  | .char c, cs =>
    match cs with
    | d :: rest => if c = d then [rest] else []
    | [] => []
  | .any, cs => tails cs
  | .before, cs => cs :: behindSlashes cs
  | .behind, cs =>
    match cs with
    | '/' :: rest => tails rest
    | _ => []
  | .between, cs =>
    match cs with
    | '/' :: rest => rest :: behindSlashes rest
    | _ => []

/-- What may be left when each part in turn has taken its share. -/
def restsAfter (parts : List Token) (cs : List Char) : List (List Char) :=
  parts.foldl (fun rests part => (rests.flatMap part.rests).eraseDups) [cs]

/-- Whether a pattern matches a name.  A pattern that is nothing but segments before
matches every name. -/
def isMatch (pattern name : String) : Bool :=
  let parts := tokens pattern
  parts == [.before] || (restsAfter parts name.toList).contains []

end RouteAudit.Ignore
