/-
  Proofs/Syntax/Place.lean --- where in a tree a node stands.

  WHAT THIS FILE IS FOR.  One and the same subtree may occur at several places of a tree, and
  what lies above a node depends on the place and not on the node.  An address names a place:
  it says at each level which child to go to.  A node lies at or below another exactly if
  the address of the other is a prefix of its own.
-/
import RouteAudit.Proofs.Syntax.Walk

set_option autoImplicit false

namespace RouteAudit.Syntax

/-- A node with its address. -/
structure Place where
  address : List Nat
  node : Node

/-- The place as it is seen from one level higher. -/
def Place.under (i : Nat) (place : Place) : Place := ⟨i :: place.address, place.node⟩

namespace Node

/-! ## Addresses -/

/-- The node at an address. -/
def at? : Node → List Nat → Option Node
  | t, [] => some t
  | t, i :: p => t.children[i]?.bind (at? · p)

theorem at?_nil (t : Node) : t.at? [] = some t := rfl

theorem at?_cons (t : Node) (i : Nat) (p : List Nat) :
    t.at? (i :: p) = t.children[i]?.bind (·.at? p) := rfl

/-! ## All places -/

mutual

/-- The places of a tree, each before those below it. -/
def places : Node → List Place
  | ⟨head, line, children⟩ => ⟨[], ⟨head, line, children⟩⟩ :: placesFrom 0 children

/-- The places of a list of trees, of which the first is child `i`. -/
def placesFrom (i : Nat) : List Node → List Place
  | [] => []
  | t :: ts => t.places.map (·.under i) ++ placesFrom (i + 1) ts

end

mutual

/-- The places come in the order of a walk. -/
theorem map_node_places : ∀ t : Node, t.places.map (·.node) = t.preorder
  | ⟨head, line, children⟩ => by
    rw [places, preorder, List.map_cons, map_node_placesFrom]

theorem map_node_placesFrom (i : Nat) : ∀ ts : List Node,
    (placesFrom i ts).map (·.node) = preorderAll ts
  | [] => rfl
  | t :: ts => by
    rw [placesFrom, preorderAll, List.map_append, List.map_map, map_node_placesFrom,
      ← map_node_places t]
    rfl

end

mutual

theorem mem_places {p : List Nat} {n : Node} : ∀ {t : Node},
    ⟨p, n⟩ ∈ t.places ↔ t.at? p = some n
  | ⟨head, line, children⟩ => by
    rw [places, List.mem_cons, mem_placesFrom]
    cases p with
    | nil => simp [at?_nil, eq_comm]
    | cons i p =>
      rw [at?_cons, Option.bind_eq_some_iff]
      constructor
      · rintro (heq | ⟨j, child, q, hchild, hp, hq⟩)
        · simp at heq
        · rw [Nat.zero_add] at hp
          obtain ⟨rfl, rfl⟩ := List.cons.inj hp
          exact ⟨child, hchild, hq⟩
      · rintro ⟨child, hchild, hq⟩
        exact .inr ⟨i, child, p, hchild, by rw [Nat.zero_add], hq⟩

theorem mem_placesFrom {i : Nat} {p : List Nat} {n : Node} : ∀ {ts : List Node},
    ⟨p, n⟩ ∈ placesFrom i ts ↔
      ∃ j child q, ts[j]? = some child ∧ p = (i + j) :: q ∧ child.at? q = some n
  | [] => by simp [placesFrom]
  | t :: ts => by
    rw [placesFrom, List.mem_append, mem_placesFrom, List.mem_map]
    constructor
    · rintro (⟨⟨q, m⟩, hplace, heq⟩ | ⟨j, child, q, hchild, hp, hq⟩)
      · obtain ⟨rfl, rfl⟩ := Place.mk.inj heq
        exact ⟨0, t, q, rfl, rfl, mem_places.1 hplace⟩
      · exact ⟨j + 1, child, q, hchild, by rw [hp, Nat.add_assoc, Nat.add_comm 1], hq⟩
    · rintro ⟨j, child, q, hchild, hp, hq⟩
      cases j with
      | zero =>
        obtain rfl : t = child := Option.some.inj hchild
        exact .inl ⟨⟨q, n⟩, mem_places.2 hq, by rw [hp]; rfl⟩
      | succ j => exact .inr ⟨j, child, q, hchild, by rw [hp, Nat.add_assoc, Nat.add_comm 1], hq⟩

end

/-- The nodes of a tree are the nodes at its addresses. -/
theorem mem_preorder {t n : Node} : n ∈ t.preorder ↔ ∃ p, t.at? p = some n := by
  rw [← map_node_places, List.mem_map]
  constructor
  · rintro ⟨⟨p, m⟩, hplace, rfl⟩
    exact ⟨p, mem_places.1 hplace⟩
  · rintro ⟨p, hp⟩
    exact ⟨⟨p, n⟩, mem_places.2 hp, rfl⟩

/-! ## Inside of nodes -/

/-- An address lies inside a node that passes a test: such a node stands properly above it. -/
def InsideOf (t : Node) (test : Node → Bool) (p : List Nat) : Prop :=
  ∃ place ∈ t.places, test place.node = true ∧ place.address <+: p ∧ place.address ≠ p

instance (t : Node) (test : Node → Bool) (p : List Nat) : Decidable (t.InsideOf test p) :=
  inferInstanceAs (Decidable (∃ place ∈ t.places, _))

section InsideOf

variable {t : Node} {test : Node → Bool} {p : List Nat}

theorem insideOf_iff : t.InsideOf test p ↔
    ∃ q n, t.at? q = some n ∧ test n = true ∧ q <+: p ∧ q ≠ p := by
  constructor
  · rintro ⟨⟨q, n⟩, hplace, h⟩
    exact ⟨q, n, mem_places.1 hplace, h⟩
  · rintro ⟨q, n, hq, h⟩
    exact ⟨⟨q, n⟩, mem_places.2 hq, h⟩

theorem not_insideOf_nil : ¬ t.InsideOf test [] := by
  rintro ⟨place, -, -, hprefix, hne⟩
  exact hne (List.prefix_nil.1 hprefix)

/-- What lies below the root lies inside of it and of what it lies inside of in a child. -/
theorem insideOf_cons_iff {i : Nat} : t.InsideOf test (i :: p) ↔
    test t = true ∨ ∃ child, t.children[i]? = some child ∧ child.InsideOf test p := by
  rw [insideOf_iff]
  constructor
  · rintro ⟨q, n, hq, hn, hprefix, hne⟩
    cases q with
    | nil =>
      obtain rfl : t = n := Option.some.inj hq
      exact .inl hn
    | cons j q =>
      obtain ⟨rfl, hbelow⟩ := List.cons_prefix_cons.1 hprefix
      rw [at?_cons, Option.bind_eq_some_iff] at hq
      obtain ⟨child, hchild, hq⟩ := hq
      have hother : q ≠ p := fun heq => hne (heq ▸ rfl)
      exact .inr ⟨child, hchild, insideOf_iff.2 ⟨q, n, hq, hn, hbelow, hother⟩⟩
  · rintro (hroot | ⟨child, hchild, hinside⟩)
    · exact ⟨[], t, at?_nil t, hroot, List.nil_prefix, (List.cons_ne_nil i p).symm⟩
    · obtain ⟨q, n, hq, hn, hprefix, hne⟩ := insideOf_iff.1 hinside
      refine ⟨i :: q, n, ?_, hn, List.cons_prefix_cons.2 ⟨rfl, hprefix⟩, ?_⟩
      · rw [at?_cons, hchild, Option.bind_some, hq]
      · intro heq
        exact hne (List.cons.inj heq).2

/-- Where the root does not pass the test, a place lies inside as it does in its child. -/
theorem insideOf_child_iff (hroot : ¬ test t = true) {i : Nat} {child : Node}
    (hchild : t.children[i]? = some child) :
    t.InsideOf test (i :: p) ↔ child.InsideOf test p := by
  rw [insideOf_cons_iff, or_iff_right hroot, hchild]
  simp

end InsideOf

/-- An address lies inside a node of a category: such a node stands properly above it. -/
def Inside (t : Node) (category : Category) (p : List Nat) : Prop :=
  ∃ place ∈ t.places, place.node.category = category ∧ place.address <+: p ∧ place.address ≠ p

instance (t : Node) (category : Category) (p : List Nat) : Decidable (t.Inside category p) :=
  inferInstanceAs (Decidable (∃ place ∈ t.places, _))

section Inside

variable {t : Node} {category : Category} {p : List Nat}

theorem inside_iff_insideOf :
    t.Inside category p ↔ t.InsideOf (fun n => decide (n.category = category)) p := by
  simp only [Inside, InsideOf, decide_eq_true_iff]

theorem not_inside_nil : ¬ t.Inside category [] := by
  rw [inside_iff_insideOf]
  exact not_insideOf_nil

theorem inside_cons_iff {i : Nat} : t.Inside category (i :: p) ↔
    t.category = category ∨ ∃ child, t.children[i]? = some child ∧ child.Inside category p := by
  simp only [inside_iff_insideOf, insideOf_cons_iff, decide_eq_true_iff]

theorem inside_child_iff (hroot : t.category ≠ category) {i : Nat} {child : Node}
    (hchild : t.children[i]? = some child) :
    t.Inside category (i :: p) ↔ child.Inside category p := by
  rw [inside_iff_insideOf, inside_iff_insideOf]
  exact insideOf_child_iff (by simpa using hroot) hchild

end Inside

end Node

end RouteAudit.Syntax
