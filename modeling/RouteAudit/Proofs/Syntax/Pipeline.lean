/-
  Proofs/Syntax/Pipeline.lean --- what a pipeline of selectors finds.

  WHAT THIS FILE IS FOR.  At every stage but the last a pipeline looks only below the
  outermost nodes that the selector accepts.  Here it is shown that nothing is lost that way
  and nothing comes too early or too late: the pipeline finds the first node, in the order of
  a walk, that ends a chain of nodes in which each lies at or below the one before it and
  is accepted by its own selector.

  HOW IT GOES.  At a node that the first selector accepts, every chain may as well start at
  that node, so the selector is done with; at any other node the chains are those of the
  children.  The pipeline follows the same two equations.

  Main statement: `find?_eq_some_iff_first`.
-/
import Mathlib.Data.List.Chain
import Mathlib.Data.List.Infix
import Mathlib.Data.Set.List
import RouteAudit.Proofs.Syntax.Place

set_option autoImplicit false

namespace RouteAudit.Syntax.Node

variable {f g : Selector} {fs : List Selector} {t : Node}

/-! ## Chains -/

/-- Selectors lead to an address: there are places, one for each selector and the last one at
that address, such that each lies at or below the one before it and each selector accepts
the node at its place. -/
def LeadsTo (t : Node) (selectors : List Selector) (p : List Nat) : Prop :=
  ∃ chain : List (List Nat),
    List.Forall₂ (fun f q => ∃ n, t.at? q = some n ∧ f.accepts n = true) selectors chain ∧
      chain.IsChain (· <+: ·) ∧ chain.getLast? = some p

theorem LeadsTo.mem_places {p : List Nat} (h : t.LeadsTo fs p) : ∃ n, ⟨p, n⟩ ∈ t.places := by
  obtain ⟨chain, hchain, -, hlast⟩ := h
  obtain ⟨i, hi, rfl⟩ := List.mem_iff_getElem.1 (List.mem_of_getLast? hlast)
  obtain ⟨n, hn, -⟩ := hchain.get (hchain.length_eq ▸ hi) hi
  exact ⟨n, Node.mem_places.2 hn⟩

theorem leadsTo_single_iff {p : List Nat} :
    t.LeadsTo [f] p ↔ ∃ n, t.at? p = some n ∧ f.accepts n = true := by
  constructor
  · rintro ⟨chain, hchain, -, hlast⟩
    cases hchain with
    | cons hq hrest =>
      cases hrest
      exact Option.some.inj hlast ▸ hq
  · intro h
    exact ⟨[p], .cons h .nil, by simp, rfl⟩

/-- Where the root is accepted, the first selector does not narrow anything down. -/
theorem leadsTo_cons_of_accepts {p : List Nat} (h : f.accepts t = true) :
    t.LeadsTo (f :: g :: fs) p ↔ t.LeadsTo (g :: fs) p := by
  constructor
  · rintro ⟨chain, hchain, hprefix, hlast⟩
    cases hchain with
    | cons _ hrest =>
      cases hrest with
      | cons hq hrest =>
        rw [List.getLast?_cons_cons] at hlast
        exact ⟨_, .cons hq hrest, hprefix.tail, hlast⟩
  · rintro ⟨chain, hchain, hprefix, hlast⟩
    cases hchain with
    | cons hq hrest =>
      refine ⟨[] :: _, .cons ⟨t, rfl, h⟩ (.cons hq hrest), ?_, ?_⟩
      · exact List.isChain_cons_cons.2 ⟨List.nil_prefix, hprefix⟩
      · rwa [List.getLast?_cons_cons]

/-- Where the root is not accepted, a chain lies in one of the children. -/
theorem leadsTo_cons_of_not_accepts {p : List Nat} (h : f.accepts t = false) :
    t.LeadsTo (f :: fs) p ↔
      ∃ i child q, t.children[i]? = some child ∧ p = i :: q ∧ child.LeadsTo (f :: fs) q := by
  constructor
  · rintro ⟨chain, hchain, hprefix, hlast⟩
    -- The first place of the chain lies in some child, and the others lie below it.
    obtain ⟨i, child, hchild, hall⟩ : ∃ i child, t.children[i]? = some child ∧
        ∀ q ∈ chain, ∃ r, i :: r = q := by
      cases hchain with
      | @cons _ q _ rest hq _ =>
        obtain ⟨n, hn, hf⟩ := hq
        cases q with
        | nil =>
          obtain rfl : t = n := Option.some.inj hn
          rw [h] at hf
          contradiction
        | cons i q =>
          rw [at?_cons, Option.bind_eq_some_iff] at hn
          obtain ⟨child, hchild, -⟩ := hn
          refine ⟨i, child, hchild, fun r hr => ?_⟩
          rcases List.mem_cons.1 hr with rfl | hr
          · exact ⟨q, rfl⟩
          · obtain ⟨s, rfl⟩ := hprefix.rel_cons hr
            exact ⟨q ++ s, rfl⟩
    obtain ⟨chain, rfl⟩ := (Set.ext_iff.1 (Set.range_list_map (i :: ·)) chain).2 hall
    rw [List.forall₂_map_right_iff] at hchain
    rw [List.isChain_map] at hprefix
    rw [List.getLast?_map, Option.map_eq_some_iff] at hlast
    obtain ⟨q, hq, rfl⟩ := hlast
    refine ⟨i, child, q, hchild, rfl, chain, hchain.imp fun f q hq => ?_,
      hprefix.imp fun _ _ hab => ?_, hq⟩
    · simpa [at?_cons, hchild] using hq
    · simpa using hab
  · rintro ⟨i, child, q, hchild, rfl, chain, hchain, hprefix, hlast⟩
    refine ⟨chain.map (i :: ·), ?_, ?_, by rw [List.getLast?_map, hlast]; rfl⟩
    · rw [List.forall₂_map_right_iff]
      exact hchain.imp fun f q hq => by simpa [at?_cons, hchild] using hq
    · rw [List.isChain_map]
      exact hprefix.imp fun _ _ hab => by simpa using hab

/-! ## The equations of a pipeline -/

theorem find?_single_of_accepts (h : f.accepts t = true) : t.find? [f] = some t := by
  obtain ⟨head, line, children⟩ := t
  rw [find?, first?_eq_find?_preorder, preorder, List.find?_cons_of_pos h]

theorem find?_cons_of_accepts (h : f.accepts t = true) :
    t.find? (f :: g :: fs) = t.find? (g :: fs) := by
  obtain ⟨head, line, children⟩ := t
  rw [find?, filter_outermost, outermost, if_pos h, List.findSome?_cons, List.findSome?_nil]
  cases find? (g :: fs) ⟨head, line, children⟩ <;> rfl

theorem findSome?_flatMap {α β γ : Type} (next : α → List β) (look : β → Option γ) (xs : List α) :
    (xs.flatMap next).findSome? look = xs.findSome? fun x => (next x).findSome? look := by
  induction xs with
  | nil => rfl
  | cons x xs ih =>
    rw [List.flatMap_cons, List.findSome?_append, ih, List.findSome?_cons]
    cases (next x).findSome? look <;> rfl

theorem find?_cons_of_not_accepts (h : f.accepts t = false) :
    t.find? (f :: fs) = t.children.findSome? (find? (f :: fs)) := by
  obtain ⟨head, line, children⟩ := t
  have hnot : ¬ f.accepts ⟨head, line, children⟩ = true := by simp [h]
  cases fs with
  | nil =>
    rw [find?, first?_eq_find?_preorder, preorder, List.find?_cons_of_neg hnot,
      preorderAll_eq_flatMap, List.find?_flatMap]
    simp only [find?, first?_eq_find?_preorder]
  | cons g fs =>
    rw [find?, filter_outermost, outermost, if_neg hnot, outermostAll_eq_flatMap,
      findSome?_flatMap]
    simp only [find?, filter_outermost]

/-! ## The first node that ends a chain -/

open Classical in
/-- The node at the first place to which selectors lead. -/
noncomputable def firstLed? (selectors : List Selector) (t : Node) : Option Node :=
  (t.places.find? fun place => t.LeadsTo selectors place.address).map (·.node)

open Classical in
mutual

/-- It is enough to compare the two where the first selector accepts the root. -/
theorem find?_eq_firstLed?_of_accepted
    (hroot : ∀ t, f.accepts t = true → t.find? (f :: fs) = t.firstLed? (f :: fs)) :
    ∀ t : Node, t.find? (f :: fs) = t.firstLed? (f :: fs)
  | ⟨head, line, children⟩ => by
    by_cases h : f.accepts ⟨head, line, children⟩
    · exact hroot _ h
    · have h : f.accepts ⟨head, line, children⟩ = false := by simpa using h
      have hnot : ¬ LeadsTo ⟨head, line, children⟩ (f :: fs) [] := by
        simp [leadsTo_cons_of_not_accepts h]
      rw [find?_cons_of_not_accepts h, firstLed?, places,
        List.find?_cons_of_neg (by simpa using hnot)]
      refine findSome?_eq_of_accepted hroot _ 0 children fun j child q hchild => ?_
      rw [leadsTo_cons_of_not_accepts h]
      simp [hchild]

theorem findSome?_eq_of_accepted
    (hroot : ∀ t, f.accepts t = true → t.find? (f :: fs) = t.firstLed? (f :: fs))
    (leads : List Nat → Prop) (i : Nat) : ∀ ts : List Node,
    (∀ j child q, ts[j]? = some child → (leads ((i + j) :: q) ↔ child.LeadsTo (f :: fs) q)) →
      ts.findSome? (find? (f :: fs)) =
        ((placesFrom i ts).find? fun place => leads place.address).map (·.node)
  | [], _ => rfl
  | t :: ts, hleads => by
    have hrest := findSome?_eq_of_accepted hroot leads (i + 1) ts fun j child q hchild => by
      rw [Nat.add_assoc, Nat.add_comm 1]
      exact hleads (j + 1) child q hchild
    have hpred : ((fun place : Place => decide (leads place.address)) ∘ Place.under i) =
        fun place => decide (t.LeadsTo (f :: fs) place.address) :=
      funext fun place => decide_eq_decide.2 (hleads 0 t place.address rfl)
    have hfirst : ((t.places.map (·.under i)).find? fun place => leads place.address).map
        (·.node) = t.find? (f :: fs) := by
      rw [find?_eq_firstLed?_of_accepted hroot t, List.find?_map, hpred, Option.map_map]
      rfl
    rw [List.findSome?_cons, hrest, placesFrom, List.find?_append, Option.map_or, hfirst]
    cases t.find? (f :: fs) <;> rfl

end

theorem find?_eq_firstLed? (f : Selector) (fs : List Selector) (t : Node) :
    t.find? (f :: fs) = t.firstLed? (f :: fs) := by
  induction fs generalizing f t with
  | nil =>
    refine find?_eq_firstLed?_of_accepted (fun t h => ?_) t
    have hleads : t.LeadsTo [f] [] := leadsTo_single_iff.2 ⟨t, at?_nil t, h⟩
    obtain ⟨head, line, children⟩ := t
    rw [find?_single_of_accepts h, firstLed?, places,
      List.find?_cons_of_pos (by simpa using hleads)]
    rfl
  | cons g fs ih =>
    refine find?_eq_firstLed?_of_accepted (fun t h => ?_) t
    have hleads : t.LeadsTo (f :: g :: fs) = t.LeadsTo (g :: fs) :=
      funext fun p => propext (leadsTo_cons_of_accepts h)
    rw [find?_cons_of_accepts h, ih g t, firstLed?, firstLed?, hleads]

theorem firstLed?_eq_some_iff {n : Node} :
    t.firstLed? fs = some n ↔ ∃ before p behind, t.places = before ++ ⟨p, n⟩ :: behind ∧
      t.LeadsTo fs p ∧ ∀ earlier ∈ before, ¬ t.LeadsTo fs earlier.address := by
  rw [firstLed?, Option.map_eq_some_iff]
  constructor
  · rintro ⟨⟨p, n⟩, hfind, rfl⟩
    obtain ⟨hleads, before, behind, hplaces, hbefore⟩ := List.find?_eq_some_iff_append.1 hfind
    exact ⟨before, p, behind, hplaces, by simpa using hleads, by simpa using hbefore⟩
  · rintro ⟨before, p, behind, hplaces, hleads, hbefore⟩
    refine ⟨⟨p, n⟩, List.find?_eq_some_iff_append.2 ⟨by simpa using hleads, before, behind,
      hplaces, by simpa using hbefore⟩, rfl⟩

theorem firstLed?_eq_none_iff : t.firstLed? fs = none ↔ ¬ ∃ p, t.LeadsTo fs p := by
  rw [firstLed?, Option.map_eq_none_iff, List.find?_eq_none]
  simp only [decide_eq_true_eq]
  constructor
  · rintro hnone ⟨p, hleads⟩
    obtain ⟨n, hplace⟩ := hleads.mem_places
    exact hnone _ hplace hleads
  · exact fun hnone place _ hleads => hnone ⟨_, hleads⟩

/-- A pipeline of selectors finds the first node, in the order of a walk, that ends a chain:
one node for each selector, accepted by it and at or below the node before.  It finds none
exactly if there is no chain. -/
theorem find?_eq_some_iff_first (f : Selector) (fs : List Selector) (t : Node) :
    t.places.map (·.node) = t.preorder ∧
    (∀ n, t.find? (f :: fs) = some n ↔
      ∃ before p behind, t.places = before ++ ⟨p, n⟩ :: behind ∧ t.LeadsTo (f :: fs) p ∧
        ∀ earlier ∈ before, ¬ t.LeadsTo (f :: fs) earlier.address) ∧
    (t.find? (f :: fs) = none ↔ ¬ ∃ p, t.LeadsTo (f :: fs) p) ∧
    (t.has (f :: fs) = false ↔ ¬ ∃ p, t.LeadsTo (f :: fs) p) := by
  have hnone : t.find? (f :: fs) = none ↔ ¬ ∃ p, t.LeadsTo (f :: fs) p := by
    rw [find?_eq_firstLed?, firstLed?_eq_none_iff]
  refine ⟨map_node_places t, fun n => ?_, hnone, ?_⟩
  · rw [find?_eq_firstLed?, firstLed?_eq_some_iff]
  · rw [has, Option.isSome_eq_false_iff, Option.isNone_iff_eq_none, hnone]

end RouteAudit.Syntax.Node
