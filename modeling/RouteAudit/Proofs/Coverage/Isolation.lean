/-
  Proofs/Coverage/Isolation.lean --- methods that know nothing of each other.

  WHAT THIS FILE IS FOR.  One tracker is carried through all methods of a scope, and through
  scope after scope.  What a method counts is nevertheless its own: the bindings that came
  before it, from other methods, from earlier visits or from the start, leave no trace.
  This needs that no assignment and no call stands outside of the methods, where it would be
  taken in before any method has cleared the bindings, and that methods do not hold methods.

  HOW IT GOES.  A method clears the bindings before anything of it is looked at, so its count
  is one for all bindings (`count_foldl_preorder_of_method`).  Outside of methods there is
  nothing to count, so the methods add up along the tree (`count_foldl_preorder`).

  Main statement: `count_iterate_visit`.
-/
import Mathlib.Algebra.BigOperators.Group.List.Basic
import Mathlib.Logic.Function.Iterate
import RouteAudit.Proofs.Coverage.Visit
import RouteAudit.Proofs.Syntax.Place

set_option autoImplicit false

namespace RouteAudit.Coverage

open RouteAudit.Syntax

/-! ## Scopes made of methods -/

/-- The methods of a scope, nested ones included. -/
def methods (scope : Node) : List Node := scope.preorder.filter (·.category = .method)

/-- Everything that matters to a visit lies in a method, and methods do not hold methods. -/
structure Methodical (scope : Node) : Prop where
  inside : ∀ place ∈ scope.places,
    place.node.category = .assign ∨ place.node.category = .methodCall →
      scope.Inside .method place.address
  apart : ∀ place ∈ scope.places, place.node.category = .method →
    ¬ scope.Inside .method place.address

section Methodical

variable {scope : Node}

/-- Nothing but a method that all the rest lies in matters at the root. -/
theorem Methodical.root (h : Methodical scope) :
    scope.category ≠ .assign ∧ scope.category ≠ .methodCall := by
  have hplace : ⟨[], scope⟩ ∈ scope.places := Node.mem_places.2 (Node.at?_nil scope)
  constructor
  · intro hassign
    exact Node.not_inside_nil (h.inside _ hplace (.inl hassign))
  · intro hcall
    exact Node.not_inside_nil (h.inside _ hplace (.inr hcall))

theorem Methodical.child (h : Methodical scope) (hroot : scope.category ≠ .method)
    {child : Node} (hchild : child ∈ scope.children) : Methodical child := by
  obtain ⟨i, hi⟩ := List.mem_iff_getElem?.1 hchild
  have hplaces : ∀ place ∈ child.places, ⟨i :: place.address, place.node⟩ ∈ scope.places := by
    intro place hplace
    rw [Node.mem_places, Node.at?_cons, hi, Option.bind_some]
    exact Node.mem_places.1 hplace
  constructor
  · intro place hplace hmatters
    have hinside := h.inside _ (hplaces place hplace) hmatters
    exact (Node.inside_child_iff hroot hi).1 hinside
  · intro place hplace hmethod hnested
    exact h.apart _ (hplaces place hplace) hmethod ((Node.inside_child_iff hroot hi).2 hnested)

/-- A method is the only one in itself. -/
theorem Methodical.methods_eq (h : Methodical scope) (hroot : scope.category = .method) :
    methods scope = [scope] := by
  have hbelow : ∀ n ∈ Node.preorderAll scope.children, n.category ≠ .method := by
    intro n hn hmethod
    rw [Node.preorderAll_eq_flatMap, List.mem_flatMap] at hn
    obtain ⟨child, hchild, hn⟩ := hn
    obtain ⟨i, hi⟩ := List.mem_iff_getElem?.1 hchild
    obtain ⟨p, hp⟩ := Node.mem_preorder.1 hn
    have hplace : ⟨i :: p, n⟩ ∈ scope.places := by
      rw [Node.mem_places, Node.at?_cons, hi, Option.bind_some, hp]
    exact h.apart _ hplace hmethod (Node.inside_cons_iff.2 (.inl hroot))
  obtain ⟨head, line, children⟩ := scope
  rw [methods, Node.preorder, List.filter_cons_of_pos (by simpa using hroot),
    List.filter_eq_nil_iff.2 (by simpa using hbelow)]

end Methodical

namespace Vocabulary

variable {v : Vocabulary} {route : String}

/-! ## One method -/

/-- The number of times that a method alone acts on a route. -/
def covers (v : Vocabulary) (route : String) (method : Node) : Nat :=
  (v.visit {} method).occurrences.count route

/-- What a method counts does not depend on what was bound before it. -/
theorem count_foldl_preorder_of_method {t : Node} (ht : t.category = .method) (r : Tracker) :
    (t.preorder.foldl v.step r).occurrences.count route =
      r.occurrences.count route + v.covers route t := by
  have hclears : ∀ r : Tracker, v.step r t = { r with bindings := .empty } := by
    intro r
    unfold step
    rw [ht]
  have hcount : ∀ r : Tracker, (t.preorder.foldl v.step r).occurrences.count route =
      r.occurrences.count route +
        v.actingCalls .empty (Node.preorderAll t.children) route := by
    intro r
    obtain ⟨head, line, children⟩ := t
    rw [Node.preorder, List.foldl_cons, hclears, count_foldl_step]
  rw [hcount r, covers, visit_eq_foldl, hcount {}]
  simp

/-! ## All methods of a scope -/

mutual

theorem count_foldl_preorder : ∀ {t : Node}, Methodical t → ∀ r : Tracker,
    (t.preorder.foldl v.step r).occurrences.count route =
      r.occurrences.count route + ((methods t).map (v.covers route)).sum
  | ⟨head, line, children⟩, h, r => by
    by_cases hmethod : (⟨head, line, children⟩ : Node).category = .method
    · rw [h.methods_eq hmethod, count_foldl_preorder_of_method hmethod]
      simp
    · obtain ⟨hassign, hcall⟩ := h.root
      have hidle : v.step r ⟨head, line, children⟩ = r := by
        unfold step
        split
        · contradiction
        · contradiction
        · contradiction
        · rfl
      have hall := count_foldl_preorderAll (fun child hchild => h.child hmethod hchild) r
      rw [methods, Node.preorder, List.foldl_cons, hidle, hall,
        List.filter_cons_of_neg (by simpa using hmethod)]

theorem count_foldl_preorderAll : ∀ {ts : List Node}, (∀ t ∈ ts, Methodical t) →
    ∀ r : Tracker, ((Node.preorderAll ts).foldl v.step r).occurrences.count route =
      r.occurrences.count route +
        (((Node.preorderAll ts).filter (·.category = .method)).map (v.covers route)).sum
  | [], _, r => by simp [Node.preorderAll]
  | t :: ts, h, r => by
    have hfirst := count_foldl_preorder (h t List.mem_cons_self) r
    have hrest := count_foldl_preorderAll
      (fun s hs => h s (List.mem_cons_of_mem t hs)) (t.preorder.foldl v.step r)
    rw [Node.preorderAll, List.foldl_append, hrest, hfirst, List.filter_append,
      List.map_append, List.sum_append, Nat.add_assoc, methods]

end

/-- Visits of a scope that consists of methods add to each route, visit by visit, the sum of
what the methods count one by one, each on a tracker of its own.  Neither what was bound or
counted at the start nor what earlier visits and methods bound makes a difference. -/
theorem count_iterate_visit (v : Vocabulary) {scope : Node} (h : Methodical scope)
    (r : Tracker) (visits : Nat) (route : String) :
    ((v.visit · scope)^[visits] r).occurrences.count route = r.occurrences.count route +
      visits * ((methods scope).map fun method =>
        (v.visit {} method).occurrences.count route).sum := by
  induction visits with
  | zero => simp
  | succ visits ih =>
    rw [Function.iterate_succ_apply', visit_eq_foldl, count_foldl_preorder h, ih,
      Nat.add_mul, Nat.one_mul, Nat.add_assoc]
    rfl

/-- Two methods that use one variable, which only the first one binds. -/
def twoMethods : Node :=
  let get : Node := ⟨.methodCall "get", 4, [⟨.argument, 4, [⟨.var "route", 4, []⟩]⟩]⟩
  let bound : Node := ⟨.assign, 3, [⟨.var "route", 3, []⟩, ⟨.stringLiteral "home", 3, []⟩]⟩
  ⟨.classDecl "HomeTest" none false, 1,
    [⟨.method "first" .everyone false (some "void"), 2, [bound, get]⟩,
      ⟨.method "second" .everyone false (some "void"), 5, [get]⟩]⟩

theorem count_iterate_visit_twoMethods :
    let start : Tracker := { bindings := ⟨[("route", "home")]⟩, occurrences := .ofList ["home"] }
    Methodical twoMethods ∧
      (((({} : Vocabulary).visit · twoMethods)^[3]) start).occurrences.count "home" = 4 := by
  intro start
  have h : Methodical twoMethods := ⟨by decide, by decide⟩
  refine ⟨h, ?_⟩
  rw [count_iterate_visit {} h start 3 "home"]
  decide

end Vocabulary

end RouteAudit.Coverage
