/-
  Syntax/Node.lean --- the syntax tree of a test file.

  WHAT THIS FILE IS FOR.  Coverage is read off the shape of a PHP file: which
  classes it declares, which methods they have, which calls those make.  The
  tree below keeps exactly these notions as constructors of their own and every
  other construct as `Head.other`, so that a traversal still reaches the calls
  nested in it.

  SHAPE.  A call keeps its receiver first and its arguments after it, as
  `argument` children.  An assignment keeps target, then value.  The name of a
  class, method or attribute is part of its head and no child.
-/

set_option autoImplicit false

namespace RouteAudit.Syntax

/-! ## Heads -/

/-- Who may call a method. -/
inductive Visibility where
  /-- every caller -/
  | everyone
  /-- the class and its subclasses -/
  | family
  /-- the class alone -/
  | owner
  deriving DecidableEq, Repr, Inhabited

/-- What a node of the tree is, with the texts that belong to the node itself. -/
inductive Head where
  /-- a whole file -/
  | program
  /-- a namespace declaration; the braced form keeps its body as children -/
  | namespaceDecl (name : String)
  /-- one imported class, the prefix of its group applied -/
  | importClause (name : String) (knownAs : Option String)
  /-- a class; its parent is kept as written, with a leading backslash -/
  | classDecl (name : String) (parent : Option String) (isAbstract : Bool)
  /-- a method; its return type is kept as written -/
  | method (name : String) (visibility : Visibility) (isStatic : Bool) (returns : Option String)
  /-- one attribute of a class, method, property, constant or parameter -/
  | marker (name : String)
  /-- an assignment -/
  | assign
  /-- a variable, without its dollar sign -/
  | var (name : String)
  /-- a string without interpolation, escapes decoded -/
  | stringLiteral (value : String)
  /-- a call of a method, on an object or on a class -/
  | methodCall (name : String)
  /-- a call of a function; the name is empty when the callee is computed -/
  | functionCall (name : String)
  /-- one argument of a call or attribute -/
  | argument
  /-- a name in an expression or type, without a leading backslash -/
  | identifier (name : String)
  /-- a return statement -/
  | returnStatement
  /-- an array literal -/
  | array
  /-- any other construct, by the name of its production -/
  | other (type : String)
  deriving DecidableEq, Repr, Inhabited

/-- The heads without their texts. -/
inductive Category where
  | program
  | namespaceDecl
  | importClause
  | classDecl
  | method
  | marker
  | assign
  | var
  | stringLiteral
  | methodCall
  | functionCall
  | argument
  | identifier
  | returnStatement
  | array
  | other
  deriving DecidableEq, Repr, Inhabited

/-- The category of a head. -/
def Head.category : Head → Category
  | .program => .program
  | .namespaceDecl _ => .namespaceDecl
  | .importClause _ _ => .importClause
  | .classDecl _ _ _ => .classDecl
  | .method _ _ _ _ => .method
  | .marker _ => .marker
  | .assign => .assign
  | .var _ => .var
  | .stringLiteral _ => .stringLiteral
  | .methodCall _ => .methodCall
  | .functionCall _ => .functionCall
  | .argument => .argument
  | .identifier _ => .identifier
  | .returnStatement => .returnStatement
  | .array => .array
  | .other _ => .other

/-- The name a head carries; that of a string literal is its value. -/
def Head.name? : Head → Option String
  | .namespaceDecl name | .importClause name _ | .classDecl name _ _ | .method name _ _ _ | .marker name
  | .var name | .methodCall name | .functionCall name | .identifier name => some name
  | .stringLiteral value => some value
  | .program | .assign | .argument | .returnStatement | .array | .other _ => none

/-! ## Trees -/

/-- A node: what it is, the line it starts on (the first line is 1), what it holds. -/
structure Node where
  head : Head
  line : Nat
  children : List Node
  deriving Repr, Inhabited, BEq

namespace Node

/-- The category of the root. -/
def category (t : Node) : Category := t.head.category

/-- The name of the root, if it has one. -/
def name? (t : Node) : Option String := t.head.name?

/-- The argument children of a call or attribute, in order. -/
def arguments (t : Node) : List Node :=
  t.children.filter (·.category = .argument)

/-- The expression passed as first argument. -/
def firstArgument? (t : Node) : Option Node :=
  t.arguments.head?.bind (·.children.head?)

/-- The first argument is the first child that is one; what it starts with is its expression. -/
theorem firstArgument?_eq_some_iff {t e : Node} :
    t.firstArgument? = some e ↔
      ∃ before argument after, t.children = before ++ argument :: after ∧
        (∀ u ∈ before, u.category ≠ .argument) ∧ argument.category = .argument ∧
        argument.children.head? = some e := by
  rw [firstArgument?, arguments, List.head?_filter, Option.bind_eq_some_iff]
  simp only [List.find?_eq_some_iff_append, decide_eq_true_eq, Bool.not_eq_true',
    decide_eq_false_iff_not]
  constructor
  · rintro ⟨argument, ⟨hargument, before, after, hchildren, hbefore⟩, he⟩
    exact ⟨before, argument, after, hchildren, hbefore, hargument, he⟩
  · rintro ⟨before, argument, after, hchildren, hbefore, hargument, he⟩
    exact ⟨argument, ⟨hargument, before, after, hchildren, hbefore⟩, he⟩

mutual

/-- The number of nodes of a tree. -/
def size : Node → Nat
  | ⟨_, _, children⟩ => 1 + sizeAll children

/-- The number of nodes of a list of trees. -/
def sizeAll : List Node → Nat
  | [] => 0
  | t :: ts => t.size + sizeAll ts

end

theorem size_pos (t : Node) : 0 < t.size := by
  cases t
  rw [size]
  omega

theorem size_eq (t : Node) : t.size = 1 + sizeAll t.children := by
  cases t
  rw [size]

theorem sizeAll_append (ts us : List Node) : sizeAll (ts ++ us) = sizeAll ts + sizeAll us := by
  induction ts with
  | nil => rw [List.nil_append, sizeAll, Nat.zero_add]
  | cons t ts ih => rw [List.cons_append, sizeAll, sizeAll, ih, Nat.add_assoc]

end Node

end RouteAudit.Syntax
