/-
  Proofs/Coverage/Visit.lean --- what a visit counts, node by node.

  WHAT THIS FILE IS FOR.  A visit carries bindings along and changes them as it goes.
  Here it is said without anything that changes: the nodes of a scope stand in a row, and
  what a variable holds at one of them is read off the nodes before it.  A visit adds to
  each route the number of calls in the row that act on it.

  HOW IT GOES.  Both sides are extended by one node at the end of the row: `get?_step` and
  `holds_concat` for the bindings, `count_step` and `actingCalls_concat` for the counts.

  Main statement: `count_visit`.
-/
import Mathlib.Data.List.Induction
import RouteAudit.Coverage.Visit
import RouteAudit.Proofs.Syntax.Walk
import RouteAudit.Proofs.Tally

set_option autoImplicit false

/-! ## What a node is -/

namespace RouteAudit.Syntax.Node

theorem category_eq_assign_iff {t : Node} : t.category = .assign ↔ t.head = .assign := by
  unfold category
  cases t.head <;> simp [Head.category]

theorem category_eq_methodCall_iff {t : Node} :
    t.category = .methodCall ↔ ∃ name, t.head = .methodCall name := by
  unfold category
  cases t.head <;> simp [Head.category]

theorem category_eq_functionCall_iff {t : Node} :
    t.category = .functionCall ↔ ∃ name, t.head = .functionCall name := by
  unfold category
  cases t.head <;> simp [Head.category]

/-- A literal is named by its value. -/
theorem name?_eq_some_iff_of_literal {t : Node} (ht : t.category = .stringLiteral)
    (value : String) : t.name? = some value ↔ t.head = .stringLiteral value := by
  unfold category at ht
  unfold name?
  cases hhead : t.head <;> simp [hhead, Head.category] at ht
  simp [Head.name?]

end RouteAudit.Syntax.Node

namespace RouteAudit.Coverage

open RouteAudit.Syntax

/-! ## Meaning -/

/-- A node stands for a route: a literal for its value, a variable other than `this` for
what it holds. -/
def Denotes (holds : String → String → Prop) (e : Node) (route : String) : Prop :=
  e.head = .stringLiteral route ∨ ∃ name, e.head = .var name ∧ name ≠ "this" ∧ holds name route

namespace Vocabulary

variable (v : Vocabulary)

/-- A node is a call of the route function, whatever namespace it is called in. -/
def CallsRoute (e : Node) : Prop :=
  ∃ callee, e.head = .functionCall callee ∧ shortName callee = v.routeFunction

/-- An assignment binds a variable to a literal, bare or as the first argument of the route
function. -/
def Binds (assign : Node) (name value : String) : Prop :=
  assign.head = .assign ∧ ∃ target source, assign.children = [target, source] ∧
    target.head = .var name ∧
    (source.head = .stringLiteral value ∨
      v.CallsRoute source ∧ ∃ e, source.firstArgument? = some e ∧ e.head = .stringLiteral value)

/-- A node leaves a variable as it is: it is no method and does not bind it. -/
def Keeps (name : String) (t : Node) : Prop :=
  t.category ≠ .method ∧ ∀ value, ¬ v.Binds t name value

/-- What a variable holds behind a row of nodes: the literal of the last assignment that
binds it, if no method follows; without such an assignment and without a method, what it
held before. -/
def Holds (initial : Bindings) (before : List Node) (name value : String) : Prop :=
  (∃ earlier assign later, before = earlier ++ assign :: later ∧ v.Binds assign name value ∧
    ∀ t ∈ later, v.Keeps name t) ∨
  (∀ t ∈ before, v.Keeps name t) ∧ initial.get? name = some value

/-- A call acts on the route that its first argument stands for, bare or as the first
argument of the route function. -/
def ActsOn (holds : String → String → Prop) (call : Node) (route : String) : Prop :=
  ∃ name e, call.head = .methodCall name ∧ name ∈ v.actingMethods ∧
    call.firstArgument? = some e ∧
    (Denotes holds e route ∨
      v.CallsRoute e ∧ ∃ inner, e.firstArgument? = some inner ∧ Denotes holds inner route)

open Classical in
/-- The number of places in a row of nodes at which a call acts on a route, given what
variables held before the row. -/
noncomputable def actingCalls (initial : Bindings) (nodes : List Node) (route : String) : Nat :=
  (List.range nodes.length).countP fun i =>
    ∃ call, nodes[i]? = some call ∧ v.ActsOn (v.Holds initial (nodes.take i)) call route

/-! ## Recognizers -/

variable {v}

theorem callsRoute_iff {e : Node} :
    v.CallsRoute e ↔ e.category = .functionCall ∧ v.isRouteCall e = true := by
  rw [Node.category_eq_functionCall_iff]
  unfold CallsRoute isRouteCall Node.name?
  constructor
  · rintro ⟨callee, hhead, hname⟩
    exact ⟨⟨callee, hhead⟩, by simp [hhead, Head.name?, hname]⟩
  · rintro ⟨⟨callee, hhead⟩, hname⟩
    exact ⟨callee, hhead, by simpa [hhead, Head.name?] using hname⟩

theorem namedRoute?_eq_some_iff {b : Bindings} {e : Node} {route : String} :
    namedRoute? b e = some route ↔
      Denotes (fun name value => b.get? name = some value) e route := by
  obtain ⟨head, line, children⟩ := e
  unfold Denotes
  cases head <;> simp [namedRoute?]

/-- An assignment is recognized as binding a variable exactly when it binds it. -/
theorem binding?_eq_some_iff {t : Node} {name value : String} (ht : t.head = .assign) :
    v.binding? t = some (name, value) ↔ v.Binds t name value := by
  constructor
  · intro h
    refine ⟨ht, ?_⟩
    unfold binding? at h
    split at h
    · rename_i hchildren
      obtain ⟨rfl, rfl⟩ := Prod.mk.inj (Option.some.inj h)
      exact ⟨_, _, hchildren, rfl, .inl rfl⟩
    · rename_i x callee line children hchildren
      split at h
      · rename_i hcall
        split at h
        · rename_i hargument
          obtain ⟨rfl, rfl⟩ := Prod.mk.inj (Option.some.inj h)
          exact ⟨_, _, hchildren, rfl, .inr ⟨callsRoute_iff.2 ⟨rfl, hcall⟩, _, hargument, rfl⟩⟩
        · simp at h
      · simp at h
    · simp at h
  · rintro ⟨_, ⟨thead, tline, tchildren⟩, ⟨shead, sline, schildren⟩, hchildren, htarget, hsource⟩
    simp only at htarget
    subst htarget
    unfold binding?
    rcases hsource with hliteral | ⟨hroute, ⟨ehead, eline, echildren⟩, hargument, hliteral⟩
    · simp only at hliteral
      subst hliteral
      simp [hchildren]
    · obtain ⟨callee, hhead, _⟩ := id hroute
      simp only at hliteral hhead
      subst hliteral hhead
      simp [hchildren, (callsRoute_iff.1 hroute).2, hargument]

/-- The route found in a first argument is the one that it stands for, bare or in a call
of the route function. -/
theorem bind_routeExpression?_eq_some_iff {b : Bindings} {e : Node} {route : String} :
    (v.routeExpression? e).bind (namedRoute? b) = some route ↔
      Denotes (fun name value => b.get? name = some value) e route ∨
        v.CallsRoute e ∧ ∃ inner, e.firstArgument? = some inner ∧
          Denotes (fun name value => b.get? name = some value) inner route := by
  unfold routeExpression?
  split
  · rename_i hcall
    have hroute : v.CallsRoute e := by
      rw [callsRoute_iff]
      simpa using hcall
    -- The call itself is neither a literal nor a variable.
    obtain ⟨callee, hcallee, _⟩ := id hroute
    have hnot : ¬ Denotes (fun name value => b.get? name = some value) e route := by
      simp [Denotes, hcallee]
    simp [hnot, hroute, Option.bind_eq_some_iff, namedRoute?_eq_some_iff]
  · rename_i hcall
    have hroute : ¬ v.CallsRoute e := by
      rw [callsRoute_iff]
      simpa using hcall
    simp [hroute, namedRoute?_eq_some_iff]

/-- A call is recognized as acting on a route exactly when it acts on it. -/
theorem actedRoute?_eq_some_iff {b : Bindings} {t : Node} {route : String}
    (ht : t.category = .methodCall) :
    v.actedRoute? b t = some route ↔
      v.ActsOn (fun name value => b.get? name = some value) t route := by
  obtain ⟨name, hhead⟩ := Node.category_eq_methodCall_iff.1 ht
  have hname : t.name?.any v.actingMethods.contains = true ↔ name ∈ v.actingMethods := by
    simp [Node.name?, hhead, Head.name?]
  unfold actedRoute? ActsOn
  split
  · rename_i hacting
    rw [hname] at hacting
    rw [Option.bind_assoc, Option.bind_eq_some_iff]
    simp [hhead, hacting, bind_routeExpression?_eq_some_iff]
  · rename_i hacting
    rw [hname] at hacting
    simp [hhead, hacting]

/-! ## One node further -/

theorem Binds.not_keeps {t : Node} {name value : String} (h : v.Binds t name value) :
    ¬ v.Keeps name t := fun hkeeps => hkeeps.2 value h

/-- An assignment binds one variable, to one literal. -/
theorem Binds.unique {t : Node} {name other value found : String} (h : v.Binds t name value)
    (h' : v.Binds t other found) : other = name ∧ found = value := by
  have heq := (binding?_eq_some_iff h.1).2 h
  rw [(binding?_eq_some_iff h'.1).2 h'] at heq
  exact Prod.mk.inj (Option.some.inj heq)

theorem keeps_of_category {t : Node} {name : String} (hmethod : t.category ≠ .method)
    (hassign : t.category ≠ .assign) : v.Keeps name t :=
  ⟨hmethod, fun _ hbinds => hassign (Node.category_eq_assign_iff.2 hbinds.1)⟩

/-- A variable holds after a node what the node binds it to, or what it held before if the
node leaves it as it is. -/
theorem get?_step (r : Tracker) (t : Node) (name value : String) :
    (v.step r t).bindings.get? name = some value ↔
      v.Binds t name value ∨ v.Keeps name t ∧ r.bindings.get? name = some value := by
  unfold step
  split
  · rename_i hcategory
    have hkeeps : ¬ v.Keeps name t := fun h => h.1 hcategory
    have hbinds : ¬ v.Binds t name value := by
      intro h
      rw [Node.category_eq_assign_iff.2 h.1] at hcategory
      simp at hcategory
    simp [hkeeps, hbinds]
  · rename_i hcategory
    have hassign := Node.category_eq_assign_iff.1 hcategory
    have hmethod : t.category ≠ .method := by simp [hcategory]
    split
    · rename_i other found hbinding
      have hbinds := (binding?_eq_some_iff hassign).1 hbinding
      by_cases hname : name = other
      · subst hname
        have hiff : v.Binds t name value ↔ found = value :=
          ⟨fun h => (h.unique hbinds).2, fun h => h ▸ hbinds⟩
        simp [hiff, hbinds.not_keeps]
      · have hnot : ∀ value, ¬ v.Binds t name value :=
          fun value h => hname (hbinds.unique h).1
        have hkeeps : v.Keeps name t := ⟨hmethod, hnot⟩
        simp [hname, hnot, hkeeps]
    · rename_i hbinding
      have hnot : ∀ value, ¬ v.Binds t name value := by
        intro value h
        rw [(binding?_eq_some_iff hassign).2 h] at hbinding
        simp at hbinding
      have hkeeps : v.Keeps name t := ⟨hmethod, hnot⟩
      simp [hnot, hkeeps]
  · rename_i hcategory
    have hkeeps : v.Keeps name t := keeps_of_category (by simp [hcategory]) (by simp [hcategory])
    split <;> simp [hkeeps, hkeeps.2]
  · rename_i hmethod hassign _
    have hkeeps : v.Keeps name t := keeps_of_category hmethod hassign
    simp [hkeeps, hkeeps.2]

open Classical in
/-- A node adds one occurrence to the route that it acts on. -/
theorem count_step (r : Tracker) (t : Node) (route : String) :
    (v.step r t).occurrences.count route = r.occurrences.count route +
      if v.ActsOn (fun name value => r.bindings.get? name = some value) t route then 1 else 0 := by
  have hnot : t.category ≠ .methodCall →
      ¬ v.ActsOn (fun name value => r.bindings.get? name = some value) t route := by
    rintro hcategory ⟨name, _, hhead, _⟩
    exact hcategory (Node.category_eq_methodCall_iff.2 ⟨name, hhead⟩)
  unfold step
  split
  · rename_i hcategory
    simp [hnot (by simp [hcategory])]
  · rename_i hcategory
    rw [if_neg (hnot (by simp [hcategory]))]
    split <;> rfl
  · rename_i hcategory
    rw [← actedRoute?_eq_some_iff hcategory]
    split
    · rename_i acted hacted
      simp [hacted, eq_comm]
    · rename_i hacted
      simp [hacted]
  · rename_i hcategory
    simp [hnot hcategory]

theorem holds_concat (initial : Bindings) (before : List Node) (t : Node) (name value : String) :
    v.Holds initial (before ++ [t]) name value ↔
      v.Binds t name value ∨ v.Keeps name t ∧ v.Holds initial before name value := by
  constructor
  · rintro (⟨earlier, assign, later, hsplit, hbinds, hlater⟩ | ⟨hall, hinitial⟩)
    · rcases List.eq_nil_or_concat later with rfl | ⟨later, last, rfl⟩
      · obtain ⟨_, hlast⟩ := List.append_inj' hsplit rfl
        exact .inl (List.singleton_inj.1 hlast ▸ hbinds)
      · rw [List.concat_eq_append] at hsplit hlater
        rw [← List.cons_append, ← List.append_assoc] at hsplit
        obtain ⟨hbefore, hlast⟩ := List.append_inj' hsplit rfl
        rw [List.singleton_inj] at hlast
        subst hlast
        refine .inr ⟨hlater t (by simp), .inl ⟨earlier, assign, later, hbefore, hbinds, ?_⟩⟩
        exact fun u hu => hlater u (by simp [hu])
    · exact .inr ⟨hall t (by simp), .inr ⟨fun u hu => hall u (by simp [hu]), hinitial⟩⟩
  · rintro (hbinds | ⟨hkeeps, ⟨earlier, assign, later, rfl, hbinds, hlater⟩ | ⟨hall, hinitial⟩⟩)
    · exact .inl ⟨before, t, [], rfl, hbinds, by simp⟩
    · refine .inl ⟨earlier, assign, later ++ [t], by simp, hbinds, fun u hu => ?_⟩
      rcases List.mem_append.1 hu with hu | hu
      · exact hlater u hu
      · exact List.mem_singleton.1 hu ▸ hkeeps
    · refine .inr ⟨fun u hu => ?_, hinitial⟩
      rcases List.mem_append.1 hu with hu | hu
      · exact hall u hu
      · exact List.mem_singleton.1 hu ▸ hkeeps

open Classical in
theorem actingCalls_concat (initial : Bindings) (nodes : List Node) (t : Node) (route : String) :
    v.actingCalls initial (nodes ++ [t]) route = v.actingCalls initial nodes route +
      if v.ActsOn (v.Holds initial nodes) t route then 1 else 0 := by
  unfold actingCalls
  rw [List.length_append, List.length_singleton, List.range_succ, List.countP_append]
  congr 1
  · -- At the places of the row itself nothing has changed.
    refine List.countP_congr fun i hi => ?_
    have hi : i < nodes.length := List.mem_range.1 hi
    rw [List.getElem?_append_left hi, List.take_append_of_le_length (Nat.le_of_lt hi)]
  · simp [List.countP_cons]

/-! ## A whole row -/

/-- After a row of nodes a variable holds what can be read off the row. -/
theorem get?_foldl_step (r : Tracker) (nodes : List Node) (name value : String) :
    (nodes.foldl v.step r).bindings.get? name = some value ↔
      v.Holds r.bindings nodes name value := by
  induction nodes using List.reverseRecOn with
  | nil => simp [Holds]
  | append_singleton nodes t ih =>
    rw [List.foldl_append, List.foldl_cons, List.foldl_nil, get?_step, holds_concat, ih]

theorem count_foldl_step (r : Tracker) (nodes : List Node) (route : String) :
    (nodes.foldl v.step r).occurrences.count route =
      r.occurrences.count route + v.actingCalls r.bindings nodes route := by
  classical
  induction nodes using List.reverseRecOn with
  | nil => simp [actingCalls]
  | append_singleton nodes t ih =>
    have hholds : (fun name value =>
        (nodes.foldl v.step r).bindings.get? name = some value) = v.Holds r.bindings nodes := by
      funext name value
      exact propext (get?_foldl_step r nodes name value)
    rw [List.foldl_append, List.foldl_cons, List.foldl_nil, count_step, ih, hholds,
      actingCalls_concat, Nat.add_assoc]

theorem visit_eq_foldl (v : Vocabulary) (r : Tracker) (scope : Node) :
    v.visit r scope = scope.preorder.foldl v.step r := by
  rw [visit, Node.visitAll_eq_foldl]

/-- A visit adds to each route the number of calls in the scope, nested ones included, that
act on it; what a variable holds at a call is read off the nodes before it. -/
theorem count_visit (v : Vocabulary) (r : Tracker) (scope : Node) (route : String) :
    (v.visit r scope).occurrences.count route =
      r.occurrences.count route + v.actingCalls r.bindings scope.preorder route := by
  rw [visit_eq_foldl, count_foldl_step]

end Vocabulary

end RouteAudit.Coverage
