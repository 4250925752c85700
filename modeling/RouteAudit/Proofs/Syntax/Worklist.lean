/-
  Proofs/Syntax/Worklist.lean --- walks with a stack of pending nodes.

  WHAT THIS FILE IS FOR.  A walk is a recursion over trees; a visitor that halts it has to be
  heard through all levels, and one that goes past children only at its own.  Here the walk is
  compared with a loop that has no levels: it enters the topmost of the pending nodes and puts
  the children in its place.  Both enter the same nodes in the same order, whatever the
  visitor makes its decisions depend on.

  HOW IT GOES.  What is pending is walked over as a list of trees (`walkStack_eq_walkAll`); to
  put children in the place of their node is right since a walk over a list is one over
  its first part and then over its second (`walkAll_append`).  Which nodes are entered is
  seen by a visitor that keeps a log.

  Main statement: `walk_eq_walkStack`.
-/
import RouteAudit.Syntax.Walk

set_option autoImplicit false

namespace RouteAudit.Syntax

variable {σ : Type} {visit : Visitor σ} {s s' : σ}

/-! ## Visitors with a log -/

namespace Visitor

/-- The visitor that writes down, besides, each node that it enters and how it goes on. -/
def logged (visit : Visitor σ) : Visitor (σ × List (Node × Advance)) :=
  fun (s, log) t => (((visit s t).1, log ++ [(t, (visit s t).2)]), (visit s t).2)

/-- Entering nodes one after the other, a visitor comes from one state to another and goes on
as is said with each node; it ends at the first node where it halts, or without one. -/
inductive Enters (visit : Visitor σ) : σ → List (Node × Advance) → σ → Bool → Prop where
  | done {s : σ} : Enters visit s [] s true
  | halt {s next : σ} {t : Node} :
      visit s t = (next, .halt) → Enters visit s [(t, .halt)] next false
  | goOn {s next s' : σ} {t : Node} {advance : Advance} {log : List (Node × Advance)}
      {finished : Bool} :
      visit s t = (next, advance) → advance ≠ .halt → Enters visit next log s' finished →
        Enters visit s ((t, advance) :: log) s' finished

namespace Enters

variable {log : List (Node × Advance)} {finished : Bool}

/-- Behind a node where the visitor halts, none is entered. -/
theorem eq_nil_of_halt (h : visit.Enters s log s' finished) {before after : List (Node × Advance)}
    {t : Node} (hlog : log = before ++ (t, .halt) :: after) : after = [] := by
  induction h generalizing before with
  | done => simp at hlog
  | halt hvisit =>
    cases before with
    | nil => exact (List.cons.inj hlog).2.symm
    | cons first before => simp at hlog
  | goOn hvisit hadvance hrest ih =>
    cases before with
    | nil => exact absurd (Prod.mk.inj (List.cons.inj hlog).1).2 hadvance
    | cons first before => exact ih (List.cons.inj hlog).2

theorem finished_eq_false_iff (h : visit.Enters s log s' finished) :
    finished = false ↔ ∃ t, (t, .halt) ∈ log := by
  induction h with
  | done => simp
  | halt hvisit => simp
  | goOn hvisit hadvance hrest ih => simpa [hadvance.symm] using ih

end Enters

end Visitor

namespace Node

/-! ## The loop -/

/-- Enter the topmost pending node, then put its children in its place, the first on top; put
nothing there if the visitor goes past them, and end if it halts.  The state at the end, and
whether the loop was not halted. -/
def walkStack (visit : Visitor σ) (s : σ) : List Node → σ × Bool
  | [] => (s, true)
  | t :: pending =>
    match visit s t with
    | (next, .halt) => (next, false)
    | (next, .past) => walkStack visit next pending
    | (next, .into) => walkStack visit next (t.children ++ pending)
termination_by pending => sizeAll pending
decreasing_by
  · have := t.size_pos
    rw [sizeAll]
    omega
  · rw [sizeAll, sizeAll_append, size_eq]
    omega

/-- A walk over the trees of two lists is one over those of the first, and unless that is
halted one over those of the second. -/
theorem walkAll_append (visit : Visitor σ) (s : σ) (ts us : List Node) :
    walkAll visit s (ts ++ us) =
      match walkAll visit s ts with
      | (next, false) => (next, false)
      | (next, true) => walkAll visit next us := by
  induction ts generalizing s with
  | nil => rfl
  | cons t ts ih =>
    rw [List.cons_append, walkAll, walkAll]
    cases t.walk visit s with
    | mk next finished =>
      cases finished with
      | false => rfl
      | true => exact ih next

/-- The loop walks over all that is pending. -/
theorem walkStack_eq_walkAll (visit : Visitor σ) (s : σ) (pending : List Node) :
    walkStack visit s pending = walkAll visit s pending := by
  fun_induction walkStack visit s pending with
  | case1 s => rfl
  | case2 s t pending next hvisit =>
    obtain ⟨head, line, children⟩ := t
    rw [walkAll, walk, hvisit]
  | case3 s t pending next hvisit ih =>
    obtain ⟨head, line, children⟩ := t
    rw [walkAll, walk, hvisit]
    exact ih
  | case4 s t pending next hvisit ih =>
    obtain ⟨head, line, children⟩ := t
    rw [walkAll, walk, hvisit]
    exact ih.trans (walkAll_append visit next children pending)

theorem walkStack_single (visit : Visitor σ) (s : σ) (t : Node) :
    walkStack visit s [t] = t.walk visit s := by
  rw [walkStack_eq_walkAll, walkAll]
  cases t.walk visit s with
  | mk next finished => cases finished <;> rfl

/-! ## The nodes that are entered -/

/-- A log changes nothing but itself: it grows by the nodes that are entered. -/
theorem walkStack_logged (visit : Visitor σ) (s : σ) (pending : List Node)
    (log : List (Node × Advance)) :
    ∃ entered, walkStack visit.logged (s, log) pending =
        (((walkStack visit s pending).1, log ++ entered), (walkStack visit s pending).2) ∧
      visit.Enters s entered (walkStack visit s pending).1 (walkStack visit s pending).2 := by
  fun_induction walkStack visit s pending generalizing log with
  | case1 s => exact ⟨[], by simp [walkStack], .done⟩
  | case2 s t pending next hvisit =>
    exact ⟨[(t, .halt)], by simp [walkStack, Visitor.logged, hvisit], .halt hvisit⟩
  | case3 s t pending next hvisit ih =>
    obtain ⟨entered, hlogged, henters⟩ := ih (log ++ [(t, .past)])
    refine ⟨(t, .past) :: entered, ?_, .goOn hvisit (by decide) henters⟩
    simpa [walkStack, Visitor.logged, hvisit] using hlogged
  | case4 s t pending next hvisit ih =>
    obtain ⟨entered, hlogged, henters⟩ := ih (log ++ [(t, .into)])
    refine ⟨(t, .into) :: entered, ?_, .goOn hvisit (by decide) henters⟩
    simpa [walkStack, Visitor.logged, hvisit] using hlogged

/-- A walk over a tree is the loop that starts with the tree pending: both enter the same
nodes in the same order, leave the same state and say the same about having been halted.  The
node where a visitor halts is the last that is entered, and a walk was halted exactly if
there is such a node. -/
theorem walk_eq_walkStack (visit : Visitor σ) (s : σ) (t : Node) :
    t.walk visit s = walkStack visit s [t] ∧
    ∃ entered : List (Node × Advance),
      t.walk visit.logged (s, []) = (((t.walk visit s).1, entered), (t.walk visit s).2) ∧
      walkStack visit.logged (s, []) [t] = (((t.walk visit s).1, entered), (t.walk visit s).2) ∧
      visit.Enters s entered (t.walk visit s).1 (t.walk visit s).2 ∧
      (∀ before n after, entered = before ++ (n, .halt) :: after → after = []) ∧
      ((t.walk visit s).2 = false ↔ ∃ n, (n, .halt) ∈ entered) := by
  have hsame := walkStack_single visit s t
  obtain ⟨entered, hlogged, henters⟩ := walkStack_logged visit s [t] []
  rw [hsame, List.nil_append] at hlogged
  rw [hsame] at henters
  refine ⟨hsame.symm, entered, ?_, hlogged, henters, ?_, henters.finished_eq_false_iff⟩
  · rw [← walkStack_single, hlogged]
  · exact fun before n after => henters.eq_nil_of_halt

end Node

end RouteAudit.Syntax
