/-
  Proofs/Coverage/Score.lean --- the coverage of a route is a sum over the sources.

  WHAT THIS FILE IS FOR.  From the files to the coverage of a route leads a chain: the
  classes that descend from the base, their test methods, the routes declared for a
  method and those that its body acts on, and the merger of all these.  Below, the chain
  is one sum over classes and methods in which nothing is lost, shared or counted twice.

  Main statement: `count_testCoverage`.
-/
import Mathlib.Algebra.BigOperators.Group.List.Basic
import RouteAudit.Audit.Rule
import RouteAudit.Proofs.Coverage.Visit

set_option autoImplicit false

namespace RouteAudit.Coverage

open RouteAudit.Syntax RouteAudit.Discovery

/-! ## Declared routes -/

namespace Vocabulary

/-- The number of string literals in the markers directly on a class or method whose value
is the route.  A literal is a leaf, and none is looked for below one. -/
def declarations (v : Vocabulary) (owner : Node) (route : String) : Nat :=
  ((owner.children.filter v.isMarker).map fun marker =>
    (Node.outermost (·.category = .stringLiteral) marker).countP
      (·.head = .stringLiteral route)).sum

theorem count_declaredRoutes (v : Vocabulary) (owner : Node) (route : String) :
    (v.declaredRoutes owner).count route = v.declarations owner route := by
  unfold declaredRoutes declarations
  rw [List.count_flatMap]
  congr 1
  refine List.map_congr_left fun marker _ => ?_
  rw [Function.comp_apply, List.count_filterMap, Node.filter_outermost, Node.accepts_of]
  refine List.countP_congr fun t ht => ?_
  have hliteral : t.category = .stringLiteral := by
    simpa using Node.test_of_mem_outermost ht
  simpa using Node.name?_eq_some_iff_of_literal hliteral route

/-- Where literals are leaves, all literals of a marker count. -/
theorem declarations_eq_of_leaves (v : Vocabulary) (owner : Node) (route : String)
    (h : ∀ marker ∈ owner.children, ∀ t ∈ marker.preorder,
      t.category = .stringLiteral → t.children = []) :
    v.declarations owner route = ((owner.children.filter v.isMarker).map fun marker =>
      marker.preorder.countP (·.head = .stringLiteral route)).sum := by
  unfold declarations
  congr 1
  refine List.map_congr_left fun marker hmarker => ?_
  have hleaves := h marker (List.mem_filter.1 hmarker).1
  rw [Node.outermost_eq_filter_preorder fun t ht htest => hleaves t ht (by simpa using htest),
    List.countP_filter]
  refine List.countP_congr fun t _ => ?_
  simp only [Bool.and_eq_true, decide_eq_true_iff, and_iff_left_iff_imp]
  intro hhead
  simp [Node.category, hhead, Head.category]

end Vocabulary

/-! ## One method -/

/-- A public method that is not static and returns nothing. -/
def IsTest (method : Node) : Prop :=
  ∃ name, method.head = .method name .everyone false (some "void")

/-- A method with a body. -/
def HasBody (method : Node) : Prop :=
  ∃ child ∈ method.children, child.head = .other "compound_statement"

theorem isTest_eq_true_iff {method : Node} : isTest method = true ↔ IsTest method := by
  unfold isTest IsTest
  split
  · rename_i name hhead
    simp [hhead]
  · rename_i hnot
    simp only [Bool.false_eq_true, false_iff]
    rintro ⟨name, hhead⟩
    exact hnot name hhead

theorem hasBody_eq_true_iff {method : Node} : hasBody method = true ↔ HasBody method := by
  simp [hasBody, HasBody, List.any_eq_true]

open Classical in
/-- A test method covers a route as often as its class and the method itself declare it,
and as its body, if it has one, acts on it. -/
theorem count_occurrences_testMethod (v : Vocabulary) (c : ClassEntry) (method : Node)
    (route : String) :
    ((testMethod v c method).occurrences v).count route =
      v.declarations c.node route + v.declarations method route +
        if HasBody method then v.actingCalls .empty method.preorder route else 0 := by
  have hdeclared : (Tally.ofList (testMethod v c method).markers).count route =
      v.declarations c.node route + v.declarations method route := by
    rw [Tally.count_ofList]
    simp only [testMethod, List.count_append, Vocabulary.count_declaredRoutes]
  unfold TestMethod.occurrences
  by_cases hbody : HasBody method
  · have hnode : (testMethod v c method).node = some method := by
      simp [testMethod, hasBody_eq_true_iff.2 hbody]
    rw [hnode, if_pos hbody, ← hdeclared]
    simp only [Vocabulary.visit_eq_foldl]
    rw [Vocabulary.count_foldl_step]
    rfl
  · have hnone : hasBody method = false :=
      Bool.eq_false_iff.2 fun h => hbody (hasBody_eq_true_iff.1 h)
    have hnode : (testMethod v c method).node = none := by simp [testMethod, hnone]
    rw [hnode, if_neg hbody, Nat.add_zero]
    exact hdeclared

/-! ## All methods -/

namespace Table

/-- Filters given one after the other are the filters of the table. -/
theorem foldl_filter (filters before : List (TestMethod → Bool)) (methods : List TestMethod)
    (v : Vocabulary) :
    filters.foldl filter { methods, vocabulary := v, filters := before } =
      { methods, vocabulary := v, filters := before ++ filters } := by
  induction filters generalizing before with
  | nil => simp
  | cons accept rest ih =>
    rw [List.foldl_cons, filter, ih, List.append_assoc, List.singleton_append]

theorem count_tally (t : Table) (route : String) :
    t.tally.count route = ((t.methods.filter t.accepts).map fun method =>
      (method.occurrences t.vocabulary).count route).sum := by
  unfold tally
  rw [Tally.count_foldl_merge, Tally.count_empty, Nat.zero_add, List.map_map]
  rfl

end Table

/-- The test methods of the classes that descend from the base are the eligible ones among
the outermost methods of each. -/
theorem filter_methodsIn (s : TestSettings) (files : List ParsedFile)
    (accept : TestMethod → Bool) :
    (methodsIn s files).filter accept =
      ((Catalog.ofFiles files).subclassesOf s.baseClass).flatMap fun c =>
        ((Node.outermost (·.category = .method) c.node).filter fun method =>
          isTest method && accept (testMethod s.vocabulary c method)).map
            (testMethod s.vocabulary c) := by
  unfold methodsIn methodsOfClass
  rw [List.filter_flatMap]
  congr 1
  funext c
  rw [List.filter_map, List.filter_filter, Node.filter_outermost, Node.accepts_of]
  congr 2
  funext method
  exact Bool.and_comm _ _

/-- A sum over the accepted test methods is one over classes and methods. -/
theorem sum_map_filter_methodsIn (s : TestSettings) (files : List ParsedFile)
    (accept : TestMethod → Bool) (f : TestMethod → Nat) :
    (((methodsIn s files).filter accept).map f).sum =
      (((Catalog.ofFiles files).subclassesOf s.baseClass).map fun c =>
        (((Node.outermost (·.category = .method) c.node).filter fun method =>
          isTest method && accept (testMethod s.vocabulary c method)).map fun method =>
            f (testMethod s.vocabulary c method)).sum).sum := by
  rw [filter_methodsIn, List.map_flatMap, List.flatMap_def, List.sum_flatten, List.map_map]
  congr 2
  funext c
  rw [Function.comp_apply, List.map_map]
  rfl

open Classical in
/-- The coverage of a route is the sum, over the classes that descend from the base and
over the outermost methods of each that are tests and pass all filters, of what the class
declares, what the method declares and what its body acts on.  A class with several such
methods counts once for each of them.  All literals of the markers are declared where
literals are leaves, as in the trees of parsed files. -/
theorem count_testCoverage (s : TestSettings) (files : List ParsedFile)
    (filters : List (TestMethod → Bool)) (r : Route) :
    (Rule.testCoverage (filters.foldl Table.filter
        { methods := methodsIn s files, vocabulary := s.vocabulary })).count r =
      ((((Catalog.ofFiles files).subclassesOf s.baseClass).map fun c =>
        (((Node.outermost (·.category = .method) c.node).filter fun method =>
          decide (IsTest method) && filters.all (· (testMethod s.vocabulary c method))).map
            fun method =>
              s.vocabulary.declarations c.node r.identifier +
                s.vocabulary.declarations method r.identifier +
                if HasBody method then
                  s.vocabulary.actingCalls .empty method.preorder r.identifier
                else 0).sum).sum : Nat) ∧
    ∀ owner : Node, (∀ marker ∈ owner.children, ∀ t ∈ marker.preorder,
        t.category = .stringLiteral → t.children = []) →
      s.vocabulary.declarations owner r.identifier =
        ((owner.children.filter s.vocabulary.isMarker).map fun marker =>
          marker.preorder.countP (·.head = .stringLiteral r.identifier)).sum := by
  refine ⟨?_, fun owner => s.vocabulary.declarations_eq_of_leaves owner r.identifier⟩
  have htally : ∀ t : Table, t.made = none →
      (Rule.testCoverage t).count r = (t.tally.count r.identifier : Nat) := by
    intro t hmade
    simp only [Rule.testCoverage, Table.occurrences, hmade]
  rw [Table.foldl_filter, List.nil_append, htally _ rfl, Table.count_tally,
    sum_map_filter_methodsIn]
  congr 2
  refine List.map_congr_left fun c _ => ?_
  congr 1
  simp only [count_occurrences_testMethod, Table.accepts, Bool.eq_iff_iff.2
    (isTest_eq_true_iff.trans decide_eq_true_iff.symm)]

end RouteAudit.Coverage
