/-
  Proofs/Discovery/Respelling.lean --- parents that are spelled in another way.

  WHAT THIS FILE IS FOR.  A class that writes its parent by an alias must be found where it
  would be found if it wrote the full name.  In a block with imports every spelling of a full
  name makes the same resolved parent, so it does not matter to any search for subclasses
  which of them a file uses.

  HOW IT GOES.  Files that differ in one spelling are walked side by side (`RespelledIn.matches`):
  up to the class nothing differs, and behind it only what the entry keeps of the spelling,
  which neither growing a family nor choosing from it looks at (`subclassesOf_matches`).

  Main statement: `subclassesOf_respelled`.
-/
import Mathlib.Data.List.Forall2
import RouteAudit.Proofs.Discovery.Lexical
import RouteAudit.Proofs.Syntax.Qualify

set_option autoImplicit false

namespace RouteAudit.Discovery

open RouteAudit.Syntax

/-! ## Entries -/

/-- A spelling of a full name in a block with imports makes a parent that is resolved. -/
theorem Scope.parent_entry {s : Scope} {written full : String} (hfull : IsFullName full)
    (himports : s.imports ≠ []) (h : Spells s.space s.imports written full) (path : Path)
    (name : String) (isAbstract : Bool) (line : Nat) (children : List Node) :
    (s.entry path ⟨.classDecl name (some written) isAbstract, line, children⟩).parent =
      some ⟨full, true⟩ := by
  have hresolved : (!s.imports.isEmpty) = true := by simpa using himports
  simp only [Scope.entry, Option.map_some, h.qualify_eq hfull, hresolved, Bool.or_true]

/-- Entries of one class, but for how its parent is written. -/
inductive SameClass : ClassEntry → ClassEntry → Prop where
  | refl (c : ClassEntry) : SameClass c c
  | written {path : Path} {name qualified written written' : String} {isAbstract : Bool}
      {line : Nat} {children : List Node} {parent : Option Parent} :
      SameClass
        ⟨path, ⟨.classDecl name (some written) isAbstract, line, children⟩, qualified, parent⟩
        ⟨path, ⟨.classDecl name (some written') isAbstract, line, children⟩, qualified, parent⟩

namespace SameClass

variable {c c' : ClassEntry}

theorem qualified_eq (h : SameClass c c') : c.qualified = c'.qualified := by
  cases h with
  | refl => rfl
  | written => rfl

theorem isAbstract_eq (h : SameClass c c') : c.isAbstract = c'.isAbstract := by
  cases h with
  | refl => rfl
  | written => rfl

theorem extendsAny_eq (h : SameClass c c') (family : List String) :
    c.extendsAny family = c'.extendsAny family := by
  cases h with
  | refl => rfl
  | written => rfl

end SameClass

/-- A class in a scope with imports, and the same class with its parent spelled in another
way. -/
inductive Scope.Respells (s : Scope) : Node → Node → Prop where
  | parent {written written' full name : String} {isAbstract : Bool} {line : Nat}
      {children : List Node} :
      IsFullName full → s.imports ≠ [] →
      Spells s.space s.imports written full → Spells s.space s.imports written' full →
      s.Respells ⟨.classDecl name (some written) isAbstract, line, children⟩
        ⟨.classDecl name (some written') isAbstract, line, children⟩

theorem Scope.Respells.entry {s : Scope} {node node' : Node} (h : s.Respells node node')
    (path : Path) : SameClass (s.entry path node) (s.entry path node') := by
  cases h with
  | @parent written written' full name isAbstract line children hfull himports hw hw' =>
    have hparent := Scope.parent_entry hfull himports hw path name isAbstract line children
    have hparent' := Scope.parent_entry hfull himports hw' path name isAbstract line children
    simp only [Scope.entry] at hparent hparent' ⊢
    rw [hparent, hparent']
    exact .written

theorem sameClass_self (classes : List ClassEntry) : List.Forall₂ SameClass classes classes :=
  List.forall₂_same.2 fun c _ => .refl c

/-! ## Families -/

namespace Catalog

variable {classes classes' : List ClassEntry}

theorem grow_matches (h : List.Forall₂ SameClass classes classes') (family : List String) :
    grow classes family = grow classes' family := by
  induction h generalizing family with
  | nil => rfl
  | @cons c c' classes classes' hc _ ih =>
    have henroll : enroll family c = enroll family c' := by
      rw [enroll, enroll, hc.qualified_eq, hc.extendsAny_eq]
    rw [grow, grow, List.foldl_cons, List.foldl_cons, henroll]
    exact ih (enroll family c')

theorem closure_matches (h : List.Forall₂ SameClass classes classes') (family : List String) :
    closure classes family = closure classes' family := by
  fun_induction closure classes family with
  | case1 family hgrow =>
    rw [grow_matches h] at hgrow
    rw [closure, if_pos hgrow]
  | case2 family hgrow ih =>
    rw [ih, grow_matches h]
    rw [grow_matches h] at hgrow
    rw [closure.eq_def classes' family, if_neg hgrow]

theorem subclassesOf_matches (h : List.Forall₂ SameClass classes classes') (base : String) :
    List.Forall₂ SameClass (subclassesOf ⟨classes⟩ base) (subclassesOf ⟨classes'⟩ base) := by
  unfold subclassesOf family
  rw [closure_matches h]
  refine List.rel_filter ?_ h
  intro c c' hc
  show (!c.isAbstract && c.extendsAny _) = true ↔ (!c'.isAbstract && c'.extendsAny _) = true
  rw [hc.isAbstract_eq, hc.extendsAny_eq]

end Catalog

/-! ## Surveys side by side -/

/-- Surveys in one scope, of the same classes. -/
structure Survey.Matches (s s' : Survey) : Prop where
  scope : s.scope = s'.scope
  classes : List.Forall₂ SameClass s.classes s'.classes

section Matches

variable {path : Path} {s s' : Survey}

theorem Survey.Matches.step (h : s.Matches s') (node : Node) :
    (survey path s node).1.Matches (survey path s' node).1 := by
  unfold survey
  rw [h.scope]
  split
  · exact ⟨rfl, h.classes⟩
  · exact ⟨rfl, h.classes⟩
  · exact ⟨rfl, .cons (.refl _) h.classes⟩
  · exact h

theorem Survey.Matches.walk (h : s.Matches s') (t : Node) :
    (t.walk (survey path) s).1.Matches (t.walk (survey path) s').1 := by
  rw [Node.walk_eq_foldl_places (survey_snd path), Node.walk_eq_foldl_places (survey_snd path)]
  exact List.foldl_rel h fun place _ _ _ hmatches => hmatches.step place.node

theorem walkAll_survey_cons (t : Node) (ts : List Node) :
    Node.walkAll (survey path) s (t :: ts) =
      Node.walkAll (survey path) (t.walk (survey path) s).1 ts := by
  rw [Node.walkAll, Node.walk_eq_foldl_places (survey_snd path)]

theorem walkAll_survey_append (ts us : List Node) :
    Node.walkAll (survey path) s (ts ++ us) =
      Node.walkAll (survey path) (Node.walkAll (survey path) s ts).1 us := by
  induction ts generalizing s with
  | nil => rfl
  | cons t ts ih => rw [List.cons_append, walkAll_survey_cons, walkAll_survey_cons, ih]

theorem Survey.Matches.walkAll (h : s.Matches s') (ts : List Node) :
    (Node.walkAll (survey path) s ts).1.Matches
      (Node.walkAll (survey path) s' ts).1 := by
  induction ts generalizing s s' with
  | nil => exact h
  | cons t ts ih =>
    rw [walkAll_survey_cons, walkAll_survey_cons]
    exact ih (h.walk t)

/-- Below a node that is no class the walk goes on, with a scope that depends on its head
alone. -/
theorem walk_survey_of_ne {head : Head} (h : head.category ≠ .classDecl) (line : Nat)
    (children : List Node) :
    Node.walk (survey path) s ⟨head, line, children⟩ =
      Node.walkAll (survey path) (survey path s ⟨head, line, []⟩).1 children := by
  rw [Node.walk]
  cases head with
  | classDecl name parent isAbstract => exact absurd rfl h
  | _ => rfl

end Matches

/-! ## One spelling for another -/

/-- A tree that a walk enters with a survey, and the same tree with the parent of one class
spelled in another way. -/
inductive RespelledIn (path : Path) : Survey → Node → Node → Prop where
  | here {s : Survey} {node node' : Node} :
      s.scope.Respells node node' → RespelledIn path s node node'
  | inside {s : Survey} {head : Head} {line : Nat} {before after : List Node} {t t' : Node} :
      head.category ≠ .classDecl →
      RespelledIn path (Node.walkAll (survey path) (survey path s ⟨head, line, []⟩).1 before).1
        t t' →
      RespelledIn path s ⟨head, line, before ++ t :: after⟩ ⟨head, line, before ++ t' :: after⟩

theorem RespelledIn.matches {path : Path} {s : Survey} {t t' : Node}
    (h : RespelledIn path s t t') :
    (t.walk (survey path) s).1.Matches (t'.walk (survey path) s).1 := by
  induction h with
  | @here s node node' hnode =>
    have hentry := hnode.entry path
    cases hnode with
    | parent => exact ⟨rfl, .cons hentry (sameClass_self s.classes)⟩
  | inside hhead _ ih =>
    rw [walk_survey_of_ne hhead, walk_survey_of_ne hhead, walkAll_survey_append,
      walkAll_survey_append, walkAll_survey_cons, walkAll_survey_cons]
    exact ih.walkAll _

namespace Catalog

/-- In a block with imports, all spellings of a full name make the parent of that name, and it
is resolved.  Hence no search for subclasses changes when one of them takes the place of
another, be it in a class of a catalog or in the tree of a file. -/
theorem subclassesOf_respelled :
    (∀ (s : Scope) (written full : String), IsFullName full → s.imports ≠ [] →
      Spells s.space s.imports written full →
      ∀ (path : Path) (name : String) (isAbstract : Bool) (line : Nat) (children : List Node),
        (s.entry path ⟨.classDecl name (some written) isAbstract, line, children⟩).parent =
          some ⟨full, true⟩) ∧
    (∀ (front back : List ClassEntry) (s : Scope) (path : Path) (node node' : Node),
      s.Respells node node' → ∀ base : String, List.Forall₂ SameClass
        (subclassesOf ⟨front ++ s.entry path node :: back⟩ base)
        (subclassesOf ⟨front ++ s.entry path node' :: back⟩ base)) ∧
    ∀ (front back : List ParsedFile) (path : Path) (t t' : Node), RespelledIn path {} t t' →
      ∀ base : String, List.Forall₂ SameClass
        ((ofFiles (front ++ ⟨path, t⟩ :: back)).subclassesOf base)
        ((ofFiles (front ++ ⟨path, t'⟩ :: back)).subclassesOf base) := by
  refine ⟨?_, ?_, ?_⟩
  · intro s written full hfull himports hspells path name isAbstract line children
    exact Scope.parent_entry hfull himports hspells path name isAbstract line children
  · intro front back s path node node' h base
    refine subclassesOf_matches ?_ base
    exact List.rel_append (sameClass_self front) (.cons (h.entry path) (sameClass_self back))
  · intro front back path t t' h base
    refine subclassesOf_matches ?_ base
    have hfile : List.Forall₂ SameClass (classesOf ⟨path, t⟩) (classesOf ⟨path, t'⟩) :=
      List.rel_reverse h.matches.classes
    rw [List.flatMap_append, List.flatMap_append, List.flatMap_cons, List.flatMap_cons]
    exact List.rel_append (sameClass_self _) (List.rel_append hfile (sameClass_self _))

/-- A file of the namespace `Tests` that imports `Tests\\TestCase` as `Base` and `Tests` as `T`,
with a class that names its parent as written. -/
def importingFile (written : String) : Node :=
  ⟨.program, 1,
    [⟨.namespaceDecl "Tests", 1, []⟩, ⟨.importClause "Tests\\TestCase" (some "Base"), 2, []⟩,
      ⟨.importClause "Tests" (some "T"), 3, []⟩] ++
    ⟨.classDecl "UserTest" (some written) false, 4, []⟩ :: []⟩

/-- Four spellings of `Tests\\TestCase`, and a file that uses the last two. -/
theorem subclassesOf_respelled_sample :
    let s : Scope := ⟨"Tests", [⟨"Base", "Tests\\TestCase"⟩, ⟨"T", "Tests"⟩]⟩
    (∀ written ∈ ["\\Tests\\TestCase", "BASE", "t\\TestCase", "TestCase"],
      Spells s.space s.imports written "Tests\\TestCase" ∧
        (s.entry ⟨"UserTest.php"⟩ ⟨.classDecl "UserTest" (some written) false, 4, []⟩).parent =
          some ⟨"Tests\\TestCase", true⟩) ∧
      List.Forall₂ SameClass
        ((ofFiles ([] ++ ⟨⟨"UserTest.php"⟩, importingFile "t\\TestCase"⟩ :: [])).subclassesOf
          "Tests\\TestCase")
        ((ofFiles ([] ++ ⟨⟨"UserTest.php"⟩, importingFile "TestCase"⟩ :: [])).subclassesOf
          "Tests\\TestCase") := by
  intro s
  have hfull : IsFullName "Tests\\TestCase" := by decide
  have himports : s.imports ≠ [] := List.cons_ne_nil _ _
  have habsolute : Spells s.space s.imports "\\Tests\\TestCase" "Tests\\TestCase" :=
    .absolute "Tests\\TestCase"
  have halias : Spells s.space s.imports "BASE" "Tests\\TestCase" :=
    .imported "BASE" ⟨"Base", "Tests\\TestCase"⟩ none (by decide) (by decide) rfl
  have hgroup : Spells s.space s.imports "t\\TestCase" "Tests\\TestCase" :=
    .imported "t" ⟨"T", "Tests"⟩ (some "TestCase") (by decide) (by decide) rfl
  have hrelative : Spells s.space s.imports "TestCase" "Tests\\TestCase" :=
    .relative "TestCase" none (by decide) rfl (by decide)
  constructor
  · intro written hwritten
    have hspells : Spells s.space s.imports written "Tests\\TestCase" := by
      simp only [List.mem_cons, List.not_mem_nil, or_false] at hwritten
      rcases hwritten with rfl | rfl | rfl | rfl
      · exact habsolute
      · exact halias
      · exact hgroup
      · exact hrelative
    exact ⟨hspells, subclassesOf_respelled.1 s written _ hfull himports hspells _ _ _ _ _⟩
  · have hrespelled : RespelledIn ⟨"UserTest.php"⟩ {} (importingFile "t\\TestCase")
        (importingFile "TestCase") :=
      .inside (by decide) (.here (.parent hfull himports hgroup hrelative))
    exact subclassesOf_respelled.2.2 [] [] _ _ _ hrespelled "Tests\\TestCase"

end Catalog

end RouteAudit.Discovery
