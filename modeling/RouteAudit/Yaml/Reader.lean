/-
  Yaml/Reader.lean --- from text to nodes of YAML.

  WHAT THIS FILE IS FOR.  Values are written in brackets, or in block form, where
  columns say what belongs together.  The reader takes lists, mappings and scalars in
  either form, comments, and one document.  There are no anchors, tags, explicit keys
  and block scalars.

  DEPTH.  Lists and mappings nest at most 128 deep, which also bounds the recursion.
-/
import RouteAudit.Yaml.Node
import RouteAudit.Yaml.Text

set_option autoImplicit false

namespace RouteAudit.Yaml

/-! ## In brackets -/

/-- Whether the value of a key follows that started on the given line. -/
def takeColonInFlow (line : Nat) : Reader Bool := do
  skipInFlow
  let k ← get
  if k.peek? = some ':' ∧ k.line = line then
    skip
    skipInFlow
    return true
  else return false

/-- A value inside brackets, which is left out where one of the given characters
follows. -/
def valueBefore (item : Reader Node) (ends : List Char) : Reader Node := do
  match (← get).peek? with
  | some c => if ends.contains c then return .empty else item
  | none => fail .expectedValue

/-- An item of a list in brackets: a value, or a mapping of one entry without braces. -/
def flowItem (item : Reader Node) : Reader Node := do
  let line := (← get).line
  let node ← item
  if ← takeColonInFlow line then
    return .map [(node, ← valueBefore item [',', ']'])]
  else return node

/-- An entry of a mapping in braces. -/
def flowEntry (item : Reader Node) : Reader (Node × Node) := do
  let line := (← get).line
  let key ← item
  if ← takeColonInFlow line then return (key, ← valueBefore item [',', '\x7d'])
  else return (key, .empty)

/-- Elements with commas between them up to the closing bracket, with a bound on their
number. -/
def flowElements {α : Type} (close : Char) (missing : Reason) (element : Reader α) :
    Nat → Bool → Reader (List α)
  | 0, _ => fail missing
  | fuel + 1, isFirst => do
    skipInFlow
    if (← get).peek? = some close then
      skip
      return []
    if !isFirst then
      if (← get).peek? ≠ some ',' then fail missing
      skip
      skipInFlow
      if (← get).peek? = some close then
        skip
        return []
    let first ← element
    return first :: (← flowElements close missing element fuel false)

/-- A scalar, in quotes or without. -/
def scalar (inFlow : Bool) (least : Nat) : Reader Node := do
  let k ← get
  if k.isMarker then fail .markerInside
  match k.peek? with
  | none => fail .expectedValue
  | some c =>
    if c = '\'' ∨ c = '"' then return .scalar (← quoted c) true
    else return .scalar (← plain inFlow least) false

/-- A value that starts with a bracket or is a scalar. -/
def inlineValue : Nat → Bool → Nat → Reader Node
  | depth, inFlow, least => do
    match (← get).peek?, depth with
    | some '[', 0 | some '\x7b', 0 => fail .tooDeep
    | some '[', depth + 1 =>
      skip
      let fuel := (← get).rest.length + 1
      return .list (← flowElements ']' .expectedListCommaOrEnd
        (flowItem (inlineValue depth true least)) fuel true)
    | some '\x7b', depth + 1 =>
      skip
      let fuel := (← get).rest.length + 1
      return .map (← flowElements '\x7d' .expectedMapCommaOrEnd
        (flowEntry (inlineValue depth true least)) fuel true)
    | _, _ => scalar inFlow least

/-! ## In block form -/

/-- Whether a colon follows on the line on which a key started; it is taken. -/
def takeColon (line : Nat) : Reader Bool := do
  let k := (← get).pastGap
  if k.line = line ∧ k.isColon then
    set (k.ahead 1)
    return true
  else return false

/-- Whether the block goes on at this place: there is something at its column, and no
document ends. -/
def goesOnAt (column : Nat) : Reader Bool := do
  let k ← get
  return !k.rest.isEmpty && !k.isMarker && k.column = column

/-- What an item of a block list contains. -/
def blockItem (node : Nat → Bool → Reader Node) (column : Nat) : Reader Node := do
  skip
  skipInBlock false
  let k ← get
  if k.rest.isEmpty || k.isMarker || k.column ≤ column then return .empty
  else node (column + 1) true

/-- The items of a block list from a dash on, with a bound on their number. -/
def blockItems (node : Nat → Bool → Reader Node) (column : Nat) : Nat → Reader (List Node)
  | 0 => fail .expectedValue
  | fuel + 1 => do
    let first ← blockItem node column
    skipInBlock true
    if (← goesOnAt column) && (← get).isDash then
      return first :: (← blockItems node column fuel)
    else return [first]

/-- The value of a key of a block mapping, behind its colon.  A list may stand at the
column of the mapping itself. -/
def blockValue (node : Nat → Bool → Reader Node) (column : Nat) : Reader Node := do
  let line := (← get).line
  skipInBlock true
  let k ← get
  if k.rest.isEmpty || k.isMarker then return .empty
  else if k.line = line then node (column + 1) false
  else if column < k.column then node (column + 1) true
  else if k.column = column && k.isDash then
    return .list (← blockItems node column (k.rest.length + 1))
  else return .empty

/-- The entries of a block mapping from the colon of the first key on, with a bound on
their number. -/
def blockEntries (node : Nat → Bool → Reader Node) (key : Reader Node) (column : Nat)
    (first : Node) : Nat → Reader (List (Node × Node))
  | 0 => fail .expectedValue
  | fuel + 1 => do
    let value ← blockValue node column
    skipInBlock true
    if ← goesOnAt column then
      let line := (← get).line
      let next ← key
      if !(← takeColon line) then fail .expectedColon
      return (first, value) :: (← blockEntries node key column next fuel)
    else return [(first, value)]

/-- A value in block form.  Its further lines start at the column `least` or behind it;
`canNest` says whether a block list or mapping may start at this place. -/
def blockNode : Nat → Nat → Bool → Reader Node
  | depth, least, canNest => do
    let start ← get
    let fuel := start.rest.length + 1
    if start.isDash then
      if !canNest then fail .misplacedList
      match depth with
      | 0 => fail .tooDeep
      | depth + 1 => return .list (← blockItems (blockNode depth) start.column fuel)
    else
      let first ← inlineValue depth false least
      if ← takeColon start.line then
        if !canNest then fail .misplacedMap
        match depth with
        | 0 => fail .tooDeep
        | depth + 1 =>
          return .map (← blockEntries (blockNode depth)
            (inlineValue depth false (start.column + 1)) start.column first fuel)
      else return first

/-! ## Documents -/

/-- How deep values may nest. -/
def maxDepth : Nat := 128

/-- The value of a document at this place, if there is one. -/
def documentValue (canNest : Bool) : Reader Node := do
  let k ← get
  if k.rest.isEmpty || k.isMarker then return .empty
  else blockNode maxDepth 0 canNest

/-- A text that is one document, with or without a mark in front and behind. -/
def document : Reader Node := do
  skipInBlock false
  let k ← get
  let hasMark := k.isMarker && k.peek? == some '-'
  if hasMark then
    set (k.ahead 3)
    skipInBlock true
  let node ← documentValue (!hasMark || k.line < (← get).line)
  skipInBlock true
  if (← get).isMarker && (← get).peek? == some '.' then
    modify (·.ahead 3)
    skipInBlock true
  if !(← get).rest.isEmpty then fail .trailing
  return node

/-! ## Texts -/

/-- The characters of a text with every kind of line break as one newline. -/
def unifyBreaks : List Char → List Char
  | '\r' :: '\n' :: rest => '\n' :: unifyBreaks rest
  | c :: rest => (if c = '\r' ∨ c = '\u0085' then '\n' else c) :: unifyBreaks rest
  | [] => []

/-- Whether a character may stand in a text. -/
def isAllowed (c : Char) : Bool :=
  c == '\t' || c == '\n' || ' ' ≤ c && c ≤ '~' || '\u00a0' ≤ c && c.toNat ≠ 0xFEFF &&
    c.toNat ≠ 0xFFFE && c.toNat ≠ 0xFFFF

/-- What is written in a text; a byte order mark in front of it counts for nothing. -/
def Node.parse (text : String) : Except Fault Node :=
  let cs := unifyBreaks text.toList
  let cs := if cs.head? = some '\ufeff' then cs.drop 1 else cs
  if cs.all isAllowed then (document.run ⟨cs, 1, 0⟩).map (·.1)
  else .error ⟨.controlCharacter, 1, 0⟩

/-- The value that a text stands for, or why it stands for none. -/
def parse (text : String) : Except String Yaml :=
  match Node.parse text with
  | .error fault => .error fault.message
  | .ok node => node.value.mapError (·.message)

end RouteAudit.Yaml
