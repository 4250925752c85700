/-
  Proofs/Syntax/Walk.lean --- walks as folds over lists of nodes.

  WHAT THIS FILE IS FOR.  A walk that enters every node is a fold over the nodes in the
  order of the text, a search that goes past what it accepts is a fold over the outermost
  accepted nodes, and one that halts at what it accepts is a search in the list of nodes.
  With these equations a walk is reasoned about as a list.
-/
import RouteAudit.Syntax.Search

set_option autoImplicit false

namespace RouteAudit.Syntax.Node

variable {σ : Type}

/-! ## What a walk keeps -/

mutual

/-- What the visitor keeps at every node is kept by a walk. -/
theorem walk_keeps {visit : Visitor σ} {P : σ → Prop} (h : ∀ s t, P s → P (visit s t).1)
    {s : σ} (hs : P s) : ∀ t : Node, P (t.walk visit s).1
  | ⟨head, line, children⟩ => by
    have hroot := h s ⟨head, line, children⟩ hs
    rw [walk]
    split
    · rename_i hvisit
      rwa [hvisit] at hroot
    · rename_i hvisit
      rwa [hvisit] at hroot
    · rename_i hvisit
      rw [hvisit] at hroot
      exact walkAll_keeps h hroot children

theorem walkAll_keeps {visit : Visitor σ} {P : σ → Prop} (h : ∀ s t, P s → P (visit s t).1)
    {s : σ} (hs : P s) : ∀ ts : List Node, P (walkAll visit s ts).1
  | [] => hs
  | t :: ts => by
    have hfirst := walk_keeps h hs t
    rw [walkAll]
    split
    · rename_i hwalk
      rwa [hwalk] at hfirst
    · rename_i hwalk
      rw [hwalk] at hfirst
      exact walkAll_keeps h hfirst ts

end

/-! ## Entering every node -/

mutual

theorem walk_into (step : σ → Node → σ) (s : σ) :
    ∀ t : Node, t.walk (fun s node => (step s node, .into)) s = (t.preorder.foldl step s, true)
  | ⟨head, line, children⟩ => by
    rw [walk, preorder, List.foldl_cons]
    exact walkAll_into step _ children

theorem walkAll_into (step : σ → Node → σ) (s : σ) : ∀ ts : List Node,
    walkAll (fun s node => (step s node, .into)) s ts = ((preorderAll ts).foldl step s, true)
  | [] => rfl
  | t :: ts => by
    rw [walkAll, walk_into step s t, preorderAll, List.foldl_append]
    exact walkAll_into step _ ts

end

/-- To enter every node is to go through the nodes in order. -/
theorem visitAll_eq_foldl (step : σ → Node → σ) (s : σ) (t : Node) :
    t.visitAll step s = t.preorder.foldl step s := by
  rw [visitAll, walk_into]

/-! ## Going past accepted nodes -/

mutual

/-- The nodes that pass a test and lie in no other node that passes it, in order. -/
def outermost (test : Node → Bool) : Node → List Node
  | ⟨head, line, children⟩ =>
    if test ⟨head, line, children⟩ then [⟨head, line, children⟩] else outermostAll test children

/-- Those of a list of trees. -/
def outermostAll (test : Node → Bool) : List Node → List Node
  | [] => []
  | t :: ts => outermost test t ++ outermostAll test ts

end

mutual

theorem walk_past (test : Node → Bool) (step : σ → Node → σ) (s : σ) : ∀ t : Node,
    t.walk (fun s node => if test node then (step s node, .past) else (s, .into)) s =
      ((outermost test t).foldl step s, true)
  | ⟨head, line, children⟩ => by
    rw [walk, outermost]
    by_cases htest : test ⟨head, line, children⟩
    · rw [if_pos htest, if_pos htest]
      rfl
    · rw [if_neg htest, if_neg htest]
      exact walkAll_past test step s children

theorem walkAll_past (test : Node → Bool) (step : σ → Node → σ) (s : σ) : ∀ ts : List Node,
    walkAll (fun s node => if test node then (step s node, .past) else (s, .into)) s ts =
      ((outermostAll test ts).foldl step s, true)
  | [] => rfl
  | t :: ts => by
    rw [walkAll, walk_past test step s t, outermostAll, List.foldl_append]
    exact walkAll_past test step _ ts

end

theorem each_outermost (f : Selector) (step : σ → Node → σ) (s : σ) (t : Node) :
    t.each f .outermost step s = (outermost f.accepts t).foldl step s := by
  unfold each afterMatch
  rw [walk_past]

theorem accepts_of (category : Category) :
    (Selector.of category).accepts = fun t => decide (t.category = category) := by
  funext t
  simp [Selector.of, Selector.accepts, eq_comm]

/-- A search that goes past what it accepts finds the outermost accepted nodes. -/
theorem filter_outermost (f : Selector) (t : Node) :
    t.filter f .outermost = outermost f.accepts t := by
  rw [filter, each_outermost, List.foldl_flip_cons_eq_append', List.append_nil,
    List.reverse_reverse]

/-! ## Halting at an accepted node -/

mutual

theorem walk_halt (test : Node → Bool) : ∀ t : Node,
    t.walk (fun found node => if test node then (some node, .halt) else (found, .into)) none =
      (t.preorder.find? test, (t.preorder.find? test).isNone)
  | ⟨head, line, children⟩ => by
    rw [walk, preorder]
    by_cases htest : test ⟨head, line, children⟩
    · rw [if_pos htest, List.find?_cons_of_pos htest]
      rfl
    · rw [if_neg htest, List.find?_cons_of_neg htest]
      exact walkAll_halt test children

theorem walkAll_halt (test : Node → Bool) : ∀ ts : List Node,
    walkAll (fun found node => if test node then (some node, .halt) else (found, .into)) none ts =
      ((preorderAll ts).find? test, ((preorderAll ts).find? test).isNone)
  | [] => rfl
  | t :: ts => by
    rw [walkAll, walk_halt test t, preorderAll, List.find?_append]
    cases t.preorder.find? test with
    | none => exact walkAll_halt test ts
    | some n => rfl

end

/-- A search that halts at the first accepted node finds the first of the nodes in order. -/
theorem first?_eq_find?_preorder (f : Selector) (t : Node) :
    t.first? f = t.preorder.find? f.accepts := by
  rw [first?, walk_halt]

/-! ## Outermost nodes -/

theorem preorderAll_eq_flatMap (ts : List Node) : preorderAll ts = ts.flatMap preorder := by
  induction ts with
  | nil => rfl
  | cons t ts ih => rw [preorderAll, ih, List.flatMap_cons]

theorem outermostAll_eq_flatMap (test : Node → Bool) (ts : List Node) :
    outermostAll test ts = ts.flatMap (outermost test) := by
  induction ts with
  | nil => rfl
  | cons t ts ih => rw [outermostAll, ih, List.flatMap_cons]

mutual

theorem test_of_mem_outermost {test : Node → Bool} : ∀ {t s : Node},
    s ∈ outermost test t → test s = true
  | ⟨head, line, children⟩, s, h => by
    rw [outermost] at h
    by_cases htest : test ⟨head, line, children⟩
    · rw [if_pos htest, List.mem_singleton] at h
      exact h ▸ htest
    · rw [if_neg htest] at h
      exact test_of_mem_outermostAll h

theorem test_of_mem_outermostAll {test : Node → Bool} : ∀ {ts : List Node} {s : Node},
    s ∈ outermostAll test ts → test s = true
  | [], _, h => by simp [outermostAll] at h
  | t :: ts, s, h => by
    rw [outermostAll] at h
    rcases List.mem_append.1 h with h | h
    · exact test_of_mem_outermost h
    · exact test_of_mem_outermostAll h

end

mutual

/-- Where nodes that pass the test hold no others, all of them are outermost. -/
theorem outermost_eq_filter_preorder {test : Node → Bool} : ∀ {t : Node},
    (∀ s ∈ t.preorder, test s = true → s.children = []) →
      outermost test t = t.preorder.filter test
  | ⟨head, line, children⟩, h => by
    rw [preorder] at h ⊢
    have hroot := h _ List.mem_cons_self
    have hbelow := fun s hs => h s (List.mem_cons_of_mem _ hs)
    rw [outermost]
    by_cases htest : test ⟨head, line, children⟩
    · obtain rfl : children = [] := hroot htest
      simp [htest, preorderAll]
    · rw [if_neg htest, List.filter_cons_of_neg htest]
      exact outermostAll_eq_filter_preorderAll hbelow

theorem outermostAll_eq_filter_preorderAll {test : Node → Bool} : ∀ {ts : List Node},
    (∀ s ∈ preorderAll ts, test s = true → s.children = []) →
      outermostAll test ts = (preorderAll ts).filter test
  | [], _ => rfl
  | t :: ts, h => by
    rw [preorderAll] at h ⊢
    rw [outermostAll, List.filter_append,
      outermost_eq_filter_preorder fun s hs => h s (List.mem_append_left _ hs),
      outermostAll_eq_filter_preorderAll fun s hs => h s (List.mem_append_right _ hs)]

end

end RouteAudit.Syntax.Node
