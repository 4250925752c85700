/-
  Discovery/Method.lean --- the test methods of a set of files.

  WHAT THIS FILE IS FOR.  A test method is a public method of a test class that is not
  static and returns nothing.  It covers the routes that its class and the method itself
  declare, class first, and those that its body acts on.
-/
import RouteAudit.Coverage.Visit
import RouteAudit.Discovery.Catalog
import RouteAudit.Php.Program

set_option autoImplicit false

namespace RouteAudit.Discovery

open RouteAudit.Syntax RouteAudit.Coverage

/-- Where tests are found and how they name routes. -/
structure TestSettings where
  directory : Option Path := some ⟨"tests"⟩
  /-- the full name of the class that tests extend -/
  baseClass : String := "Tests\\TestCase"
  extension : String := "php"
  vocabulary : Vocabulary := {}
  deriving DecidableEq, Repr, Inhabited

/-- A test method that was found. -/
structure TestMethod where
  className : String
  name : String
  path : Path
  line : Nat
  /-- the method in the tree, unless it has no body -/
  node : Option Node
  /-- the routes that are declared for it, those of its class first -/
  markers : List String
  deriving Inhabited

namespace TestMethod

/-- How often a method covers each route. -/
def occurrences (v : Vocabulary) (m : TestMethod) : Tally String :=
  let declared := Tally.ofList m.markers
  match m.node with
  | some node => (v.visit { occurrences := declared } node).occurrences
  | none => declared

end TestMethod

/-- Whether a node is a public method that is not static and returns nothing. -/
def isTest (t : Node) : Bool :=
  match t.head with
  | .method _ .everyone false (some "void") => true
  | _ => false

/-- Whether a method has a body. -/
def hasBody (method : Node) : Bool :=
  method.children.any (·.head == .other "compound_statement")

/-- The test method at a node of a class. -/
def testMethod (v : Vocabulary) (c : ClassEntry) (node : Node) : TestMethod where
  className := c.name
  name := node.name?.getD ""
  path := c.path
  line := node.line
  node := if hasBody node then some node else none
  markers := v.declaredRoutes c.node ++ v.declaredRoutes node

/-- The test methods of a class, in the order of the text. -/
def methodsOfClass (v : Vocabulary) (c : ClassEntry) : List TestMethod :=
  ((c.node.filter (.of .method) .outermost).filter isTest).map (testMethod v c)

/-- The test methods of a set of files, in the order of their classes. -/
def methodsIn (s : TestSettings) (files : List ParsedFile) : List TestMethod :=
  ((Catalog.ofFiles files).subclassesOf s.baseClass).flatMap (methodsOfClass s.vocabulary)

/-- What reads a text as a tree. -/
abbrev Parser := String → Except Php.Fault Node

/-- A file with its tree, unless its text does not parse. -/
def parseFile? (parse : Parser) (path : Path) (text : String) : Option ParsedFile :=
  match parse text with
  | .ok program => some { path, program }
  | .error _ => none

/-- The test methods of one text. -/
def methodsOfText (s : TestSettings) (path : Path) (text : String) (parse : Parser := Php.parse) :
    List TestMethod :=
  methodsIn s (parseFile? parse path text).toList

end RouteAudit.Discovery
