/-
  Ignore/Glob.lean --- the glob language that patterns are compiled in.

  WHAT THIS FILE IS FOR.  A pattern of route names is handed to a language with more
  operators than a star: a question mark for any one character, classes in brackets and
  alternatives in braces.  What that language would take for one of these is written as a
  class of one character, so that it stands for itself.  `readParts` reads the whole
  language and refuses what does not belong to it; `Accepts` says what is matched.
-/
import RouteAudit.Ignore.Pattern

set_option autoImplicit false

namespace RouteAudit.Ignore

/-! ## Writing a pattern as a glob -/

/-- The characters that mean something in a glob and nothing in a pattern. -/
def isOperator (c : Char) : Bool := c ∈ ['?', '[', ']', '\x7b', '\x7d']

/-- A pattern as a glob: operators of the glob language become classes of one character. -/
def escape : List Char → List Char
  | [] => []
  | c :: rest => if isOperator c then '[' :: c :: ']' :: escape rest else c :: escape rest

/-! ## Globs -/

/-- A part of a glob. -/
inductive Part where
  /-- what patterns know, too -/
  | token (t : Token)
  /-- any one character -/
  | anyOne
  /-- one character within some ranges, or within none of them -/
  | oneOf (isNegated : Bool) (ranges : List (Char × Char))
  | alternatives (branches : List (List Part))
  deriving Repr, Inhabited

/-- Why a text is no glob. -/
inductive GlobFault where
  | unclosedClass
  | invalidRange (first last : Char)
  | unopenedAlternatives
  | unclosedAlternatives
  | nestedAlternatives
  deriving DecidableEq, Repr, Inhabited

/-! ## Reading a glob -/

/-- A class that is not closed yet: its ranges, last one first, and whether a hyphen waits
for the end of the last one. -/
structure OpenClass where
  isNegated : Bool := false
  ranges : List (Char × Char) := []
  isRange : Bool := false
  deriving Repr, Inhabited

/-- Read one more character of a class, which may close it.  The first member may be any
character. -/
def OpenClass.read (k : OpenClass) (c : Char) : Except GlobFault (OpenClass ⊕ Part) :=
  match k.ranges with
  | [] => .ok (.inl { k with ranges := [(c, c)] })
  | (first, last) :: others =>
    if c = ']' then
      let ranges := if k.isRange then ('-', '-') :: k.ranges else k.ranges
      .ok (.inr (.oneOf k.isNegated ranges.reverse))
    else if k.isRange then
      if first ≤ c then .ok (.inl { k with ranges := (first, c) :: others, isRange := false })
      else .error (.invalidRange first c)
    else if c = '-' then .ok (.inl { k with isRange := true })
    else .ok (.inl { k with ranges := (c, c) :: (first, last) :: others })

/-- What stands around the parts that are being read: nothing, or the parts before a brace
and the alternatives that are read already. -/
abbrev Group := Option (List Part × List (List Part))

/-- Put a recursive part in the place of the slash before it; one after another one
counts once. -/
def replaceSlash (part : Token) : List Part → List Part
  | .token .before :: rest => .token .before :: rest
  | .token .behind :: rest => .token .behind :: rest
  | _ :: rest => .token part :: rest
  | [] => [.token part]

/-- Two stars that stand for whole segments. -/
def pushSegments (part : Token) (done : List Part) : List Part :=
  if done.isEmpty then [.token .before] else replaceSlash part done

/-- Whether nothing more comes, or nothing more of an alternative. -/
def endsParts (group : Group) : List Char → Bool
  | [] => true
  | c :: _ => group.isSome && (c == ',' || c == '\x7d')

/-- Whether two stars before these characters stand for whole segments.  At the start of a glob
they do if nothing follows, and at the start of an alternative they never do. -/
def isSuffix (group : Group) (done : List Part) (last : Option Char) (rest : List Char) : Bool :=
  if done.isEmpty then rest.isEmpty else last == some '/' && endsParts group rest

/-- Read a glob.  The parts so far come last one first; `last` is the character before, and
`inside` the class that is being read. -/
def readParts (inside : Option OpenClass) (group : Group) (done : List Part)
    (last : Option Char) : List Char → Except GlobFault (List Part)
  | [] =>
    match inside, group with
    | some _, _ => .error .unclosedClass
    | none, some _ => .error .unclosedAlternatives
    | none, none => .ok done.reverse
  | c :: rest =>
    match inside with
    | some k =>
      match k.read c with
      | .error fault => .error fault
      | .ok (.inl k) => readParts (some k) group done (some c) rest
      | .ok (.inr part) => readParts none group (part :: done) (some c) rest
    | none =>
      match c, rest with
      | '*', '*' :: '/' :: rest =>
        if done.isEmpty || last == some '/' then
          readParts none group (pushSegments .between done) (some '/') rest
        else readParts none group (.token (.char '/') :: .token .any :: done) (some '/') rest
      | '*', '*' :: rest =>
        if isSuffix group done last rest then
          readParts none group (pushSegments .behind done) (some '*') rest
        else readParts none group (.token .any :: done) (some '*') rest
      | '*', rest => readParts none group (.token .any :: done) (some '*') rest
      | '?', rest => readParts none group (.anyOne :: done) (some '?') rest
      | '[', '!' :: rest | '[', '^' :: rest =>
        readParts (some { isNegated := true }) group done (some '!') rest
      | '[', rest => readParts (some {}) group done (some '[') rest
      | '\x7b', rest =>
        match group with
        | some _ => .error .nestedAlternatives
        | none => readParts none (some (done, [])) [] (some '\x7b') rest
      | '\x7d', rest =>
        match group with
        | some (outer, branches) =>
          readParts none none (.alternatives (done.reverse :: branches).reverse :: outer)
            (some '\x7d') rest
        | none => .error .unopenedAlternatives
      | ',', rest =>
        match group with
        | some (outer, branches) =>
          readParts none (some (outer, done.reverse :: branches)) [] (some ',') rest
        | none => readParts none none (.token (.char ',') :: done) (some ',') rest
      | c, rest => readParts none group (.token (.char c) :: done) (some c) rest

/-- The parts of a glob. -/
def readGlob (glob : List Char) : Except GlobFault (List Part) := readParts none none [] none glob

/-! ## Matching -/

/-- The texts that a token stands for. -/
def Token.Spells : Token → List Char → Prop
  | .char c, cs => cs = [c]
  | .any, _ => True
  | .before, cs => cs = [] ∨ ∃ run, cs = run ++ ['/']
  | .behind, cs => ∃ run, cs = '/' :: run
  | .between, cs => cs = ['/'] ∨ ∃ run, cs = '/' :: run ++ ['/']

/-- The parts of a glob match a text from its start to its end. -/
inductive Matches : List Part → List Char → Prop
  | nil : Matches [] []
  | token {t : Token} {parts : List Part} {run cs : List Char} :
    t.Spells run → Matches parts cs → Matches (.token t :: parts) (run ++ cs)
  | anyOne {parts : List Part} (c : Char) {cs : List Char} :
    Matches parts cs → Matches (.anyOne :: parts) (c :: cs)
  | oneOf {isNegated : Bool} {ranges : List (Char × Char)} {parts : List Part} {c : Char}
    {cs : List Char} :
    (ranges.any fun range => range.1 ≤ c && c ≤ range.2) = !isNegated → Matches parts cs →
      Matches (.oneOf isNegated ranges :: parts) (c :: cs)
  | alternatives {branches : List (List Part)} {branch parts : List Part} {cs : List Char} :
    branch ∈ branches → Matches (branch ++ parts) cs →
      Matches (.alternatives branches :: parts) cs

/-- What a glob accepts: everything if it is nothing but segments before, otherwise what its
parts match. -/
def Accepts (parts : List Part) (cs : List Char) : Prop :=
  parts = [.token .before] ∨ Matches parts cs

end RouteAudit.Ignore
