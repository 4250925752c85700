/-
  Discovery/Catalog.lean --- the classes of a set of files and who extends whom.

  WHAT THIS FILE IS FOR.  A class is a test class if it extends the base test case,
  directly or through other classes.  The catalog lists the classes of all files with
  their full names and what they extend; `subclassesOf` follows these references.

  NAMES.  A reference to a parent is resolved if it is written with a leading backslash
  or stands in a block with imports; then its full name counts.  Otherwise it is a
  guess, and it counts by its last segment.
-/
import RouteAudit.Files.Path
import RouteAudit.Syntax.Name
import RouteAudit.Syntax.Walk

set_option autoImplicit false

namespace RouteAudit.Discovery

open RouteAudit.Syntax

/-! ## Classes -/

/-- What a class extends. -/
structure Parent where
  name : String
  /-- whether `name` is known to be the full name -/
  resolved : Bool
  deriving DecidableEq, Repr, Inhabited

/-- Whether a reference means the class of the given name. -/
def Parent.means (p : Parent) (className : String) : Bool :=
  if p.resolved && isNamespaced className then sameName p.name className
  else sameName (shortName p.name) (shortName className)

/-- A file with its tree. -/
structure ParsedFile where
  path : Path
  program : Node
  deriving Inhabited

/-- A class of a catalog. -/
structure ClassEntry where
  path : Path
  node : Node
  /-- its full name -/
  qualified : String
  parent : Option Parent
  deriving Inhabited

namespace ClassEntry

/-- The name in the declaration. -/
def name (c : ClassEntry) : String := c.node.name?.getD ""

/-- Whether the class is declared abstract. -/
def isAbstract (c : ClassEntry) : Bool :=
  match c.node.head with
  | .classDecl _ _ isAbstract => isAbstract
  | _ => false

/-- Whether the class extends one of the named classes. -/
def extendsAny (c : ClassEntry) (family : List String) : Bool :=
  c.parent.any fun p => family.any p.means

end ClassEntry

/-! ## Scopes -/

/-- The namespace and the imports in effect at a point of a file. -/
structure Scope where
  space : String := ""
  imports : List Alias := []
  deriving Inhabited

/-- The entry of a class that is declared in a scope. -/
def Scope.entry (s : Scope) (path : Path) (node : Node) : ClassEntry :=
  match node.head with
  | .classDecl name parent _ =>
    { path, node
      qualified := qualify name s.space []
      parent := parent.map fun written =>
        { name := qualify written s.space s.imports
          resolved := written.toList.head? == some separator || !s.imports.isEmpty } }
  | _ => { path, node, qualified := qualify "" s.space [], parent := none }

/-- The alias that an import introduces: the given one, or the last segment. -/
def importedAlias (name : String) (given : Option String) : Alias :=
  { name := given.getD (shortName name), target := name }

/-- The scope and the classes so far, latest first. -/
structure Survey where
  scope : Scope := {}
  classes : List ClassEntry := []
  deriving Inhabited

/-- What a node does to the survey of a file.  A namespace starts a scope of its own, to
which imports are added; a class is entered and not searched. -/
def survey (path : Path) : Visitor Survey := fun s node =>
  match node.head with
  | .namespaceDecl name => ({ s with scope := { space := name } }, .into)
  | .importClause name knownAs =>
    let imports := s.scope.imports ++ [importedAlias name knownAs]
    ({ s with scope := { s.scope with imports } }, .into)
  | .classDecl _ _ _ => ({ s with classes := s.scope.entry path node :: s.classes }, .past)
  | _ => (s, .into)

/-- The classes of one file, in the order of the text. -/
def classesOf (file : ParsedFile) : List ClassEntry :=
  (file.program.walk (survey file.path) {}).1.classes.reverse

/-! ## Catalogs -/

/-- The classes of a set of files, file by file. -/
structure Catalog where
  classes : List ClassEntry
  deriving Inhabited

namespace Catalog

/-- The catalog of parsed files. -/
def ofFiles (files : List ParsedFile) : Catalog := ⟨files.flatMap classesOf⟩

/-- Whether a class of this name is in the family. -/
def knows (family : List String) (qualified : String) : Bool :=
  family.any (sameName · qualified)

/-- The family with a class, if it is new and extends a member. -/
def enroll (family : List String) (c : ClassEntry) : List String :=
  if !knows family c.qualified && c.extendsAny family then family ++ [c.qualified] else family

/-- The family after one look at every class. -/
def grow (classes : List ClassEntry) (family : List String) : List String :=
  classes.foldl enroll family

/-! ### Growing comes to an end -/

theorem knows_append_left {family more : List String} {name : String}
    (h : knows family name = true) : knows (family ++ more) name = true := by
  simp only [knows, List.any_append, Bool.or_eq_true] at h ⊢
  exact .inl h

theorem knows_enroll {family : List String} {name : String} (c : ClassEntry)
    (h : knows family name = true) : knows (enroll family c) name = true := by
  unfold enroll
  split
  · exact knows_append_left h
  · exact h

theorem knows_grow {classes : List ClassEntry} {family : List String} {name : String}
    (h : knows family name = true) : knows (grow classes family) name = true := by
  induction classes generalizing family with
  | nil => exact h
  | cons c rest ih => exact ih (knows_enroll c h)

/-- A class that is looked at either changes nothing or is known from then on. -/
theorem enroll_eq_or (family : List String) (c : ClassEntry) :
    enroll family c = family ∨
      knows family c.qualified = false ∧ knows (enroll family c) c.qualified = true := by
  unfold enroll
  split
  · rename_i h
    simp only [Bool.and_eq_true, Bool.not_eq_true'] at h
    refine .inr ⟨h.1, ?_⟩
    simp [knows, sameName_refl]
  · exact .inl rfl

/-- One look at every class either changes nothing or makes some class known. -/
theorem grow_eq_or (classes : List ClassEntry) (family : List String) :
    grow classes family = family ∨
      ∃ c ∈ classes, knows family c.qualified = false ∧
        knows (grow classes family) c.qualified = true := by
  induction classes generalizing family with
  | nil => exact .inl rfl
  | cons c rest ih =>
    rcases enroll_eq_or family c with heq | ⟨hnew, hknown⟩
    · rcases ih family with hrest | ⟨d, hd, hnew, hknown⟩
      · exact .inl (by simpa [grow, heq] using hrest)
      · exact .inr ⟨d, List.mem_cons_of_mem _ hd, hnew, by simpa [grow, heq] using hknown⟩
    · have hgrown := @knows_grow rest _ _ hknown
      exact .inr ⟨c, List.mem_cons_self, hnew, hgrown⟩

/-- The number of classes that are not known yet. -/
def strangers (classes : List ClassEntry) (family : List String) : Nat :=
  classes.countP fun c => !knows family c.qualified

theorem strangers_lt {classes : List ClassEntry} {family grown : List String}
    (hkeep : ∀ name, knows family name = true → knows grown name = true)
    (h : ∃ c ∈ classes, knows family c.qualified = false ∧ knows grown c.qualified = true) :
    strangers classes grown < strangers classes family := by
  induction classes with
  | nil => simp at h
  | cons c rest ih =>
    have hle : strangers rest grown ≤ strangers rest family := by
      refine List.countP_mono_left fun d _ hd => ?_
      simp only [Bool.not_eq_true', Bool.eq_false_iff] at hd ⊢
      exact fun hk => hd (hkeep _ hk)
    obtain ⟨d, hd, hnew, hknown⟩ := h
    unfold strangers at *
    rw [List.countP_cons, List.countP_cons]
    rcases List.mem_cons.1 hd with rfl | hd
    · simp only [hnew, hknown]
      simp
      omega
    · have hlt := ih ⟨d, hd, hnew, hknown⟩
      cases hc : knows family c.qualified with
      | true => simp [hkeep _ hc]; omega
      | false => cases knows grown c.qualified <;> simp <;> omega

/-- The family that the classes grow from the given members, look after look. -/
def closure (classes : List ClassEntry) (family : List String) : List String :=
  if grow classes family = family then family else closure classes (grow classes family)
termination_by strangers classes family
decreasing_by
  rename_i h
  exact strangers_lt (fun _ => knows_grow) ((grow_eq_or classes family).resolve_left h)

/-- The base class, the classes that extend it, the classes that extend those, and so on. -/
def family (catalog : Catalog) (base : String) : List String :=
  closure catalog.classes [trimLeading base]

/-- The classes that are not abstract and extend the base class, directly or through
others.  A base without a namespace means any class of that short name. -/
def subclassesOf (catalog : Catalog) (base : String) : List ClassEntry :=
  catalog.classes.filter fun c => !c.isAbstract && c.extendsAny (catalog.family base)

end Catalog

end RouteAudit.Discovery
