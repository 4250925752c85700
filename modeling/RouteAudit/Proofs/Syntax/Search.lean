/-
  Proofs/Syntax/Search.lean --- what a search with one selector yields.

  WHAT THIS FILE IS FOR.  A search yields nodes, but which nodes it yields is said by their
  places, for equal nodes may stand at several places of a tree.  A search for all nodes goes
  through the places whose nodes the selector accepts, and one for the outermost through those
  of them that lie inside of no accepted node, both in the order of the text.

  HOW IT GOES.  The outermost search is a walk that goes past accepted nodes, of which
  `walk_eq_foldl_places_of_test` says the places.  Of two places above one address the one
  lies above the other, so the subtrees at outermost places are disjoint; and from an
  accepted place one gets up to an outermost one, for every step up makes the address shorter.

  Main statement: `filter_eq_map_places`.
-/
import RouteAudit.Proofs.Syntax.Order

set_option autoImplicit false

namespace RouteAudit.Syntax.Node

/-- The places with nodes that a selector accepts. -/
def acceptedPlaces (f : Selector) (t : Node) : List Place :=
  t.places.filter (f.accepts ·.node)

/-- Those of them that lie inside of no accepted node. -/
def outermostPlaces (f : Selector) (t : Node) : List Place :=
  (t.acceptedPlaces f).filter fun place => ¬ t.InsideOf f.accepts place.address

variable {f : Selector} {t : Node}

theorem mem_acceptedPlaces {place : Place} :
    place ∈ t.acceptedPlaces f ↔ place ∈ t.places ∧ f.accepts place.node = true := by
  rw [acceptedPlaces, List.mem_filter]

theorem mem_outermostPlaces {place : Place} : place ∈ t.outermostPlaces f ↔
    place ∈ t.acceptedPlaces f ∧ ¬ t.InsideOf f.accepts place.address := by
  rw [outermostPlaces, List.mem_filter, decide_eq_true_iff]

theorem outermostPlaces_sublist (f : Selector) (t : Node) :
    (t.outermostPlaces f).Sublist (t.acceptedPlaces f) :=
  List.filter_sublist

theorem pairwise_outermostPlaces (f : Selector) (t : Node) :
    (t.outermostPlaces f).Pairwise (·.address < ·.address) :=
  t.pairwise_places.sublist ((outermostPlaces_sublist f t).trans List.filter_sublist)

/-! ## Searches as folds over places -/

section Each

variable {σ : Type} (step : σ → Node → σ) (s : σ)

theorem each_all_eq_foldl_places (f : Selector) (t : Node) :
    t.each f .all step s =
      (t.acceptedPlaces f).foldl (fun s place => step s place.node) s := by
  have hvisit : (fun s node => if f.accepts node then (step s node, afterMatch .all)
      else (s, .into)) = fun s node => (if f.accepts node then step s node else s, .into) := by
    funext s node
    split <;> rfl
  rw [each, hvisit, walk_into, ← map_node_places, List.foldl_map, acceptedPlaces,
    List.foldl_filter]

theorem each_outermost_eq_foldl_places (f : Selector) (t : Node) :
    t.each f .outermost step s =
      (t.outermostPlaces f).foldl (fun s place => step s place.node) s := by
  let visit : Visitor σ := fun s node =>
    if f.accepts node then (step s node, .past) else (s, .into)
  have hadvance : ∀ s n, (visit s n).2 = if f.accepts n then .past else .into := by
    intro s n
    simp only [visit]
    split <;> rfl
  have hstate : (fun s (place : Place) => (visit s place.node).1) = fun s place =>
      if f.accepts place.node then step s place.node else s := by
    funext s place
    simp only [visit]
    split <;> rfl
  calc t.each f .outermost step s
      = (t.walk visit s).1 := rfl
    _ = (t.places.filter fun place => ¬ t.InsideOf f.accepts place.address).foldl
          (fun s place => if f.accepts place.node then step s place.node else s) s := by
        rw [walk_eq_foldl_places_of_test hadvance, hstate]
    _ = (t.outermostPlaces f).foldl (fun s place => step s place.node) s := by
        rw [← List.foldl_filter, outermostPlaces, acceptedPlaces, List.filter_filter,
          List.filter_filter]
        simp only [Bool.and_comm]

end Each

theorem filter_eq_map_of_each {nesting : Nesting} {places : List Place}
    (h : ∀ (step : List Node → Node → List Node) s,
      t.each f nesting step s = places.foldl (fun s place => step s place.node) s) :
    t.filter f nesting = places.map (·.node) := by
  rw [filter, h, List.foldl_flip_cons_eq_append, List.append_nil, List.reverse_reverse]

/-! ## Outermost places -/

section Outermost

variable {a b : Place}

/-- No outermost place lies below another. -/
theorem eq_of_prefix_of_outermost (ha : a ∈ t.outermostPlaces f) (hb : b ∈ t.outermostPlaces f)
    (h : a.address <+: b.address) : a.address = b.address := by
  obtain ⟨ha, haccepts⟩ := mem_acceptedPlaces.1 (mem_outermostPlaces.1 ha).1
  by_contra hne
  exact (mem_outermostPlaces.1 hb).2 ⟨a, ha, haccepts, h, hne⟩

/-- The subtrees at two outermost places have no place in common. -/
theorem address_eq_of_outermost (ha : a ∈ t.outermostPlaces f) (hb : b ∈ t.outermostPlaces f)
    {p : List Nat} (hap : a.address <+: p) (hbp : b.address <+: p) : a.address = b.address := by
  rcases List.prefix_or_prefix_of_prefix hap hbp with h | h
  · exact eq_of_prefix_of_outermost ha hb h
  · exact (eq_of_prefix_of_outermost hb ha h).symm

/-- Above every accepted place, or at it, there is an outermost one. -/
theorem exists_outermost_above {place : Place} (h : place ∈ t.acceptedPlaces f) :
    ∃ root ∈ t.outermostPlaces f, root.address <+: place.address := by
  by_cases hinside : t.InsideOf f.accepts place.address
  · obtain ⟨other, hother, haccepts, hbelow, hne⟩ := hinside
    have hshorter : other.address.length < place.address.length :=
      lt_of_le_of_ne hbelow.length_le fun hlength => hne (hbelow.eq_of_length hlength)
    obtain ⟨root, hroot, habove⟩ :=
      exists_outermost_above (mem_acceptedPlaces.2 ⟨hother, haccepts⟩)
    exact ⟨root, hroot, habove.trans hbelow⟩
  · exact ⟨place, mem_outermostPlaces.2 ⟨h, hinside⟩, List.prefix_rfl⟩
termination_by place.address.length

end Outermost

/-- All places of a tree are listed once and in the order of the text.  A search for all nodes
yields those at the accepted places, in this order; a search for the outermost yields those at
the places that lie inside of no accepted node.  The subtrees at the latter are disjoint, and
every accepted place lies in exactly one of them. -/
theorem filter_eq_map_places (f : Selector) (t : Node) :
    (t.places.map (·.node) = t.preorder ∧ t.places.Pairwise (·.address < ·.address) ∧
      ∀ p n, ⟨p, n⟩ ∈ t.places ↔ t.at? p = some n) ∧
    t.filter f .all = (t.acceptedPlaces f).map (·.node) ∧
    t.filter f .outermost = (t.outermostPlaces f).map (·.node) ∧
    (t.outermostPlaces f).Sublist (t.acceptedPlaces f) ∧
    (t.filter f .outermost).Sublist (t.filter f .all) ∧
    (t.outermostPlaces f).Pairwise (fun a b => ∀ p, ¬ (a.address <+: p ∧ b.address <+: p)) ∧
    ∀ place ∈ t.acceptedPlaces f,
      ∃! root, root ∈ t.outermostPlaces f ∧ root.address <+: place.address := by
  have hall : t.filter f .all = (t.acceptedPlaces f).map (·.node) :=
    filter_eq_map_of_each fun step s => each_all_eq_foldl_places step s f t
  have houtermost : t.filter f .outermost = (t.outermostPlaces f).map (·.node) :=
    filter_eq_map_of_each fun step s => each_outermost_eq_foldl_places step s f t
  refine ⟨⟨map_node_places t, pairwise_places t, fun p n => mem_places⟩, hall, houtermost,
    outermostPlaces_sublist f t, ?_, ?_, fun place hplace => ?_⟩
  · rw [hall, houtermost]
    exact (outermostPlaces_sublist f t).map _
  · refine (pairwise_outermostPlaces f t).imp_of_mem fun ha hb hlt p hp => ?_
    exact absurd (address_eq_of_outermost ha hb hp.1 hp.2) (ne_of_lt hlt)
  · obtain ⟨root, hroot, habove⟩ := exists_outermost_above hplace
    refine ⟨root, ⟨hroot, habove⟩, fun other hother => ?_⟩
    obtain ⟨p, n⟩ := root
    obtain ⟨q, m⟩ := other
    obtain rfl : q = p := address_eq_of_outermost hother.1 hroot hother.2 habove
    have hplaces := (outermostPlaces_sublist f t).trans List.filter_sublist
    have hn := mem_places.1 (hplaces.subset hroot)
    have hm := mem_places.1 (hplaces.subset hother.1)
    rw [Option.some.inj (hm.symm.trans hn)]

end RouteAudit.Syntax.Node
