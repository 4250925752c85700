/-
  Proofs/Syntax/Order.lean --- the order of the text.

  WHAT THIS FILE IS FOR.  A walk enters the places of a tree in the order of the text, and
  addresses compared from the top down are in the same order.  So the places before a place
  are the first part of the list of all places, no place is listed twice, and what stands
  between a node and a place inside of it lies inside of the node as well.

  A walk that goes past the children of the nodes that pass a test enters exactly the places
  that do not lie inside of such a node.
-/
import Mathlib.Data.List.Lex
import Mathlib.Data.List.Nodup
import RouteAudit.Proofs.Syntax.Place

set_option autoImplicit false

namespace RouteAudit.Syntax

/-! ## Addresses in order -/

section Address

variable {p q r : List Nat}

/-- What properly lies above a place comes before it. -/
theorem lt_of_prefix (h : p <+: q) (hne : p ≠ q) : p < q := by
  induction p generalizing q with
  | nil =>
    cases q with
    | nil => exact absurd rfl hne
    | cons j q => exact List.nil_lt_cons j q
  | cons i p ih =>
    cases q with
    | nil => exact absurd (List.prefix_nil.1 h) (List.cons_ne_nil i p)
    | cons j q =>
      obtain ⟨rfl, hbelow⟩ := List.cons_prefix_cons.1 h
      exact List.cons_lt_cons_self.2 (ih hbelow fun heq => hne (heq ▸ rfl))

/-- What comes between a place and one below it lies below it. -/
theorem prefix_of_between (h : p <+: r) (hpq : p < q) (hqr : q < r) : p <+: q := by
  induction p generalizing q r with
  | nil => exact List.nil_prefix
  | cons i p ih =>
    obtain ⟨r, rfl⟩ : ∃ tail, r = i :: tail := by
      obtain ⟨more, hr⟩ := h
      exact ⟨p ++ more, hr.symm⟩
    cases q with
    | nil => exact absurd hpq (List.not_lt_nil _)
    | cons j q =>
      rw [List.cons_lt_cons_iff] at hpq hqr
      obtain rfl : i = j := by omega
      have hbelow := (List.cons_prefix_cons.1 h).2
      have hleft : p < q := by simpa using hpq
      have hright : q < r := by simpa using hqr
      exact List.cons_prefix_cons.2 ⟨rfl, ih hbelow hleft hright⟩

end Address

namespace Node

/-! ## Places in order -/

mutual

theorem pairwise_places : ∀ t : Node, t.places.Pairwise (·.address < ·.address)
  | ⟨head, line, children⟩ => by
    rw [places, List.pairwise_cons]
    refine ⟨fun place hplace => ?_, pairwise_placesFrom 0 children⟩
    obtain ⟨j, child, q, -, haddress, -⟩ := mem_placesFrom.1 hplace
    rw [haddress]
    exact List.nil_lt_cons _ q

theorem pairwise_placesFrom (i : Nat) : ∀ ts : List Node,
    (placesFrom i ts).Pairwise (·.address < ·.address)
  | [] => List.Pairwise.nil
  | t :: ts => by
    rw [placesFrom, List.pairwise_append, List.pairwise_map]
    refine ⟨?_, pairwise_placesFrom (i + 1) ts, ?_⟩
    · exact (pairwise_places t).imp List.cons_lt_cons_self.2
    · intro first hfirst second hsecond
      obtain ⟨place, -, rfl⟩ := List.mem_map.1 hfirst
      obtain ⟨j, child, q, -, haddress, -⟩ := mem_placesFrom.1 hsecond
      rw [haddress, Place.under, List.cons_lt_cons_iff]
      exact .inl (by omega)

end

/-- The places before an address. -/
def placesBefore (t : Node) (p : List Nat) : List Place :=
  t.places.takeWhile (·.address ≠ p)

section Before

variable {t : Node} {before after : List Place} {place : Place}

/-- Behind a first part of the places stand places with addresses that are greater. -/
theorem lt_of_places_eq (h : t.places = before ++ place :: after) {other : Place}
    (hother : other ∈ before) : other.address < place.address := by
  have horder := pairwise_places t
  rw [h, List.pairwise_append] at horder
  exact horder.2.2 other hother place List.mem_cons_self

theorem placesBefore_eq (h : t.places = before ++ place :: after) :
    t.placesBefore place.address = before := by
  have hother : ∀ other ∈ before, decide (other.address ≠ place.address) = true := by
    intro other hother
    exact decide_eq_true (ne_of_lt (lt_of_places_eq h hother))
  rw [placesBefore, h, List.takeWhile_append_of_pos hother,
    List.takeWhile_cons_of_neg (by simp), List.append_nil]

/-- The places before an address are those whose addresses are less. -/
theorem mem_placesBefore (hplace : place ∈ t.places) {other : Place} :
    other ∈ t.placesBefore place.address ↔ other ∈ t.places ∧ other.address < place.address := by
  obtain ⟨before, after, h⟩ := List.append_of_mem hplace
  rw [placesBefore_eq h]
  constructor
  · intro hother
    exact ⟨h ▸ List.mem_append_left _ hother, lt_of_places_eq h hother⟩
  · rintro ⟨hother, hlt⟩
    have horder := pairwise_places t
    rw [h, List.pairwise_append, List.pairwise_cons] at horder
    rw [h, List.mem_append, List.mem_cons] at hother
    rcases hother with hbefore | rfl | hafter
    · exact hbefore
    · exact absurd hlt (lt_irrefl _)
    · exact absurd hlt (lt_asymm (horder.2.1.1 other hafter))

/-- What stands between a node and a place inside of it lies inside of it too. -/
theorem inside_of_between {b : Place} {first last : List Place} (hplace : place ∈ t.places)
    (habove : b.address <+: place.address)
    (hsplit : t.placesBefore place.address = first ++ b :: last) {other : Place}
    (hother : other ∈ last) :
    other ∈ t.places ∧ b.address <+: other.address ∧ b.address ≠ other.address := by
  have hbefore : other ∈ t.placesBefore place.address := by
    rw [hsplit]
    exact List.mem_append_right _ (List.mem_cons_of_mem _ hother)
  obtain ⟨hmem, hlt⟩ := (mem_placesBefore hplace).1 hbefore
  have horder : (t.placesBefore place.address).Pairwise (·.address < ·.address) :=
    t.pairwise_places.sublist (List.takeWhile_sublist _)
  rw [hsplit, List.pairwise_append, List.pairwise_cons] at horder
  have hbehind := horder.2.1.1 other hother
  exact ⟨hmem, prefix_of_between habove hbehind hlt, ne_of_lt hbehind⟩

end Before

/-! ## Walks that go past nodes -/

section Past

variable {σ : Type} {visit : Visitor σ} {test : Node → Bool}

mutual

/-- A walk that goes past the children of the nodes that pass a test enters, in order, the
places that lie inside of none of them. -/
theorem walk_eq_foldl_places_of_test
    (h : ∀ s n, (visit s n).2 = if test n then .past else .into) :
    ∀ (t : Node) (s : σ), t.walk visit s =
      ((t.places.filter fun place => ¬ t.InsideOf test place.address).foldl
        (fun s place => (visit s place.node).1) s, true)
  | ⟨head, line, children⟩, s => by
    obtain ⟨next, advance, hvisit⟩ : ∃ next advance,
        visit s ⟨head, line, children⟩ = (next, advance) := ⟨_, _, rfl⟩
    have hadvance := h s ⟨head, line, children⟩
    rw [hvisit] at hadvance
    rw [walk, places, List.filter_cons_of_pos (by simpa using not_insideOf_nil),
      List.foldl_cons, hvisit]
    by_cases hroot : test ⟨head, line, children⟩ = true
    · obtain rfl : advance = .past := hadvance.trans (if_pos hroot)
      have hinside : ∀ place ∈ placesFrom 0 children,
          (⟨head, line, children⟩ : Node).InsideOf test place.address := by
        intro place hplace
        obtain ⟨j, child, q, -, haddress, -⟩ := mem_placesFrom.1 hplace
        rw [haddress]
        exact insideOf_cons_iff.2 (.inl hroot)
      rw [List.filter_eq_nil_iff.2 (by simpa using hinside), List.foldl_nil]
    · obtain rfl : advance = .into := hadvance.trans (if_neg hroot)
      have hkeep : ∀ j child q, children[j]? = some child →
          (decide (¬ (⟨head, line, children⟩ : Node).InsideOf test ((0 + j) :: q)) = true ↔
            ¬ child.InsideOf test q) := by
        intro j child q hchild
        rw [decide_eq_true_iff, Nat.zero_add, insideOf_child_iff hroot hchild]
      exact walkAll_eq_foldl_places_of_test h (fun p => decide ¬ InsideOf _ test p) 0 children
        hkeep next

theorem walkAll_eq_foldl_places_of_test
    (h : ∀ s n, (visit s n).2 = if test n then .past else .into)
    (keep : List Nat → Bool) : ∀ (i : Nat) (ts : List Node),
    (∀ j child q, ts[j]? = some child →
      (keep ((i + j) :: q) = true ↔ ¬ child.InsideOf test q)) →
    ∀ s : σ, walkAll visit s ts =
      (((placesFrom i ts).filter (keep ·.address)).foldl
        (fun s place => (visit s place.node).1) s, true)
  | _, [], _, _ => rfl
  | i, t :: ts, hkeep, s => by
    have hfirst : (t.places.map (·.under i)).filter (keep ·.address) =
        (t.places.filter fun place => ¬ t.InsideOf test place.address).map (·.under i) := by
      rw [List.filter_map]
      congr 1
      refine List.filter_congr fun place _ => ?_
      rw [Bool.eq_iff_iff, decide_eq_true_iff]
      exact hkeep 0 t place.address rfl
    have hrest : ∀ j child q, ts[j]? = some child →
        (keep ((i + 1 + j) :: q) = true ↔ ¬ child.InsideOf test q) := by
      intro j child q hchild
      rw [Nat.add_assoc, Nat.add_comm 1]
      exact hkeep (j + 1) child q hchild
    rw [walkAll, walk_eq_foldl_places_of_test h t s, placesFrom, List.filter_append, hfirst,
      List.foldl_append, List.foldl_map]
    exact walkAll_eq_foldl_places_of_test h keep (i + 1) ts hrest _

end

/-- In particular a walk that goes past the children of the nodes of a category. -/
theorem walk_eq_foldl_places {category : Category}
    (h : ∀ s n, (visit s n).2 = if n.category = category then .past else .into) (t : Node)
    (s : σ) : t.walk visit s =
      ((t.places.filter fun place => ¬ t.Inside category place.address).foldl
        (fun s place => (visit s place.node).1) s, true) := by
  have htest : ∀ s n,
      (visit s n).2 = if decide (n.category = category) = true then .past else .into := by
    simpa using h
  simp only [walk_eq_foldl_places_of_test htest, inside_iff_insideOf]

end Past

end Node

end RouteAudit.Syntax
