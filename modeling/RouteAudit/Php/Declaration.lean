/-
  Php/Declaration.lean --- classes and their members, functions, imports.

  WHAT THIS FILE IS FOR.  These are the constructs that coverage is read from.  A
  class keeps its name, parent and abstractness in its head; a method its name,
  visibility and return type.  Their modifiers are no children.
-/
import RouteAudit.Php.Expression

set_option autoImplicit false

namespace RouteAudit.Php

open RouteAudit.Syntax
open Reader

/-! ## Constants -/

/-- One constant and its value. -/
def constantElement (g : Grammar) : Reader Piece := do
  let called ← identifier
  let mark ← sign "="
  let value ← g.expression 0
  return (called.join [mark, value]).other "const_element"

/-- Constants outside a class. -/
def constants (g : Grammar) : Reader Piece := do
  let word ← keyword "const"
  let items ← separated "," (constantElement g)
  let stop ← endMark
  return (word.join (items ++ stop)).other "const_declaration"

/-- Constants of a class, behind their attributes and modifiers; a type may come before
the first name. -/
def classConstants (g : Grammar) (start : List Piece) : Reader Piece := do
  let word ← keyword "const"
  let declared ← if (← peekSecond).isSign "=" then pure [] else pure [← type]
  let items ← separated "," (constantElement g)
  let stop ← endMark
  let p ← Piece.ofList (start ++ [word] ++ declared ++ items ++ stop)
  return p.other "const_declaration"

/-! ## Functions and methods -/

/-- The visibility that modifiers give; the first one counts. -/
def visibilityOf (flags : List Piece) : Visibility :=
  match flags.find? (isOther "visibility_modifier") with
  | some p =>
    let word := foldCase p.text
    if word == "protected" then .family else if word == "private" then .owner else .everyone
  | none => .everyone
where
  /-- Whether the piece is one node of the production. -/
  isOther (type : String) (p : Piece) : Bool :=
    match p.nodes with
    | [⟨.other found, _, _⟩] => found == type
    | _ => false

/-- Whether a modifier of the production is among them. -/
def hasModifier (type : String) (flags : List Piece) : Bool :=
  flags.any (visibilityOf.isOther type)

/-- What every named function starts with: the pieces up to its name, its name, the
rest up to its return type, and its return type. -/
structure Signature where
  start : List Piece
  name : Piece
  inner : List Piece
  returned : Option (Piece × Piece)

/-- The keyword, name, parameters and return type of a function. -/
def signature (g : Grammar) : Reader Signature := do
  let word ← keyword "function"
  let reference := (← sign? "&").map (·.other "reference_modifier")
  let called ← identifier
  let given ← parameters g
  return ⟨word :: reference.toList, called, [given], ← returnType?⟩

/-- A function with a name. -/
def functionDefinition (g : Grammar) : Reader Piece := do
  let marks ← attributes g
  let s ← signature g
  let body ← block g
  let result := (s.returned.map fun (colon, type) => [colon, type]).getD []
  let p ← Piece.ofList (marks ++ s.start ++ [s.name] ++ s.inner ++ result ++ [body])
  return p.other "function_definition"

/-- A method, behind its attributes and modifiers. -/
def method (g : Grammar) (marks flags : List Piece) : Reader Piece := do
  let s ← signature g
  let body ← if ← atSign "\x7b" then pure [← block g] else endMark
  let result := (s.returned.map fun (colon, type) => [colon, type.mute]).getD []
  let p ← Piece.ofList
    (marks ++ flags.map Piece.mute ++ s.start ++ [s.name.mute] ++ s.inner ++ result ++ body)
  let returns := s.returned.map fun (_, type) => type.text
  return p.node
    (.method s.name.text (visibilityOf flags) (hasModifier "static_modifier" flags) returns)

/-! ## Properties -/

/-- One hook of a property. -/
def hook (g : Grammar) : Reader Piece := do
  let marks ← attributes g
  let flags ← many (fun t => t.isKeyword "final") modifier
  let reference := (← sign? "&").map (·.other "reference_modifier")
  let called ← identifier
  let given ← perhaps (·.isSign "(") (parameters g)
  let body ← hookBody
  let p ← Piece.ofList (marks ++ flags ++ reference.toList ++ [called] ++ given.toList ++ body)
  return p.other "property_hook"
where
  /-- An expression, a block, or nothing. -/
  hookBody : Reader (List Piece) := do
    if ← atSign "\x7b" then return [← block g]
    else match ← sign? "=>" with
    | some arrow =>
      let value ← g.expression 0
      return arrow :: value :: (← endMark)
    | none => endMark

/-- The hooks of a property, in braces. -/
def hooks (g : Grammar) : Reader Piece := do
  let start ← sign "\x7b"
  let inner ← many (fun t => !t.isSign "\x7d") (hook g)
  let stop ← sign "\x7d"
  return (start.join (inner ++ [stop])).other "property_hook_list"

/-- One property and its value. -/
def propertyElement (g : Grammar) : Reader Piece := do
  let called ← namedVariable
  return (called.join (← initializer? g)).other "property_element"

/-- Properties, behind their attributes and modifiers. -/
def properties (g : Grammar) (start : List Piece) : Reader Piece := do
  let declared ← perhaps startsType type
  let items ← separated "," (propertyElement g)
  let stop ← if ← atSign "\x7b" then pure [← hooks g] else endMark
  let p ← Piece.ofList (start ++ declared.toList ++ items ++ stop)
  return p.other "property_declaration"

/-! ## Use of traits -/

/-- A method of a trait, perhaps with the name of the trait. -/
def traitMethod : Reader Piece := do
  let first ← name
  match ← sign? "::" with
  | some colons => return (first.join [colons, ← identifier]).other "class_constant_access_expression"
  | none => return first

/-- One rule for the methods of the traits in use. -/
def traitRule : Reader Piece := do
  let subject ← traitMethod
  if ← atKeyword "insteadof" then
    let word ← take
    let rule := (subject.join (word :: (← separated "," name))).other "use_instead_of_clause"
    return rule.join (← endMark)
  else
    let word ← keyword "as"
    let flag ← perhaps isVisibility modifier
    let called ← perhaps (·.kind == .word) identifier
    if flag.isNone && called.isNone then fail
    let rule := (subject.join (word :: flag.toList ++ called.toList)).other "use_as_clause"
    return rule.join (← endMark)
where
  /-- Whether the token is a visibility. -/
  isVisibility (t : Token) : Bool := t.isOneOf ["public", "protected", "private"]

/-- The traits a class uses. -/
def traitUse : Reader Piece := do
  let word ← keyword "use"
  let items ← separated "," name
  let stop ←
    if ← atSign "\x7b" then
      let start ← take
      let rules ← many (fun t => !t.isSign "\x7d") traitRule
      let close ← sign "\x7d"
      pure [(start.join (rules ++ [close])).other "use_list"]
    else endMark
  return (word.join (items ++ stop)).other "use_declaration"

/-! ## Bodies of classes -/

/-- One member of a class. -/
def classMember (g : Grammar) : Reader Piece := do
  if ← atKeyword "use" then traitUse
  else
    let marks ← attributes g
    let flags ← modifiers
    let t ← peek
    if t.isKeyword "function" then method g marks flags
    else if t.isKeyword "const" then classConstants g (marks ++ flags)
    else if flags.isEmpty then fail
    else properties g (marks ++ flags)

/-- The members of a class, in braces. -/
def members (g : Grammar) : Reader Piece := do
  let start ← sign "\x7b"
  let inner ← many (fun t => !t.isSign "\x7d") (classMember g)
  let stop ← sign "\x7d"
  return (start.join (inner ++ [stop])).other "declaration_list"

/-- One case of an enumeration, behind its attributes. -/
def enumCase (g : Grammar) (marks : List Piece) : Reader Piece := do
  let word ← keyword "case"
  let called ← identifier
  let initial ← initializer? g
  let stop ← endMark
  let p ← Piece.ofList (marks ++ word :: called :: initial ++ stop)
  return p.other "enum_case"

/-- One member of an enumeration. -/
def enumMember (g : Grammar) : Reader Piece := do
  if ← atKeyword "use" then traitUse
  else
    let marks ← attributes g
    if ← atKeyword "case" then enumCase g marks
    else
      let flags ← modifiers
      if ← atKeyword "const" then classConstants g (marks ++ flags) else method g marks flags

/-! ## Classes and their kin -/

/-- A class.  Its parent is the last name behind `extends`, as written. -/
def classDeclaration (g : Grammar) : Reader Piece := do
  let marks ← attributes g
  let flags ← modifiers
  let word ← keyword "class"
  let called ← identifier
  let base ← perhaps (·.isKeyword "extends") do
    let start ← keyword "extends"
    let names ← separated "," name
    return (start.join names, names.getLast?)
  let interfaces ← perhaps (·.isKeyword "implements") interfaceClause
  let body ← members g
  let silent := (flags ++ word :: called :: (base.map (·.1)).toList ++ interfaces.toList).map
    Piece.mute
  let p ← Piece.ofList (marks ++ silent ++ [body])
  let parent := (base.bind (·.2)).map (·.text)
  return p.node (.classDecl called.text parent (hasModifier "abstract_modifier" flags))

/-- An interface, a trait or an enumeration. -/
def classLike (g : Grammar) : Reader Piece := do
  let marks ← attributes g
  let t ← peek
  let word ← take
  let called ← identifier
  if t.isKeyword "interface" then
    let base ← perhaps (·.isKeyword "extends") baseClause
    let body ← members g
    let p ← Piece.ofList (marks ++ word :: called :: base.toList ++ [body])
    return p.other "interface_declaration"
  else if t.isKeyword "trait" then
    let body ← members g
    let p ← Piece.ofList (marks ++ [word, called, body])
    return p.other "trait_declaration"
  else
    let backing ← returnType?
    let interfaces ← perhaps (·.isKeyword "implements") interfaceClause
    let start ← sign "\x7b"
    let inner ← many (fun t => !t.isSign "\x7d") (enumMember g)
    let stop ← sign "\x7d"
    let body := (start.join (inner ++ [stop])).other "enum_declaration_list"
    let result := (backing.map fun (colon, type) => [colon, type]).getD []
    let p ← Piece.ofList (marks ++ word :: called :: result ++ interfaces.toList ++ [body])
    return p.other "enum_declaration"

/-! ## Namespaces and imports -/

/-- A namespace, with a body in braces or without. -/
def namespaceDefinition (g : Grammar) : Reader Piece := do
  let word ← keyword "namespace"
  let called ← perhaps startsSegments segments
  let stop ← if ← atSign "\x7b" then pure [← block g] else endMark
  if called.isNone && stop.all (·.nodes.isEmpty) then fail
  let title := called.map fun p => trimLeading p.text
  return (word.join ((called.map Piece.mute).toList ++ stop)).node (.namespaceDecl (title.getD ""))

/-- Whether imports after this token are functions or constants. -/
def isImportType (t : Token) : Bool := t.isOneOf ["function", "const"]

/-- One imported name, perhaps under an alias.  Functions and constants yield no node. -/
def importClause (start : Option String) : Reader Piece := do
  let next ← peekSecond
  let type ←
    if isImportType (← peek) && startsSegments next && !next.isKeyword "as" then
      pure [← take]
    else pure []
  let target ← segments
  let knownAs ← perhaps (·.isKeyword "as") do return (← keyword "as", ← anyWord)
  let p ← Piece.ofList (type ++ target :: (knownAs.map fun (a, b) => [a, b]).getD [])
  if type.isEmpty then
    let base := trimLeading target.text
    let full := match start with
      | some start => start ++ "\\" ++ base
      | none => base
    return p.leaf (.importClause full (knownAs.map fun (_, called) => called.text))
  else return p.mute

/-- Imports, one by one or as a group with a common start. -/
def imports : Reader Piece := do
  let word ← keyword "use"
  let type ← if isImportType (← peek) && startsSegments (← peekSecond) then pure [← take] else pure []
  let items ← if ← startsGroup then group else separated "," (importClause none)
  let stop ← endMark
  let p := word.join (type ++ items ++ stop)
  return (if type.isEmpty then p else p.mute).other "namespace_use_declaration"
where
  /-- Whether a group follows: names up to a brace. -/
  startsGroup : Reader Bool := do
    let rest := (← get).dropWhile startsSegments
    return (rest.head?.map (·.isSign "\x7b")).getD false
  /-- A group of imports and its start. -/
  group : Reader (List Piece) := do
    let start ← segments
    let separator ← sign "\\"
    let clauses ← someBracketed "\x7b" "\x7d" (importClause (some (trimLeading start.text)))
    return start.mute :: separator :: clauses

end RouteAudit.Php
