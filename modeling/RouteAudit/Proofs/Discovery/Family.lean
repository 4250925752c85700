/-
  Proofs/Discovery/Family.lean --- the family of a base class is a least set of names.

  WHAT THIS FILE IS FOR.  `Catalog.subclassesOf` grows a family look after look, reads the
  members it has just added, and passes over a class whose name it knows up to case.  None
  of this is visible in what it finds: beside it stands `Reached`, the least set of names
  that holds the base and, with a name, every class that extends it.

  HOW IT GOES.  Every member of a growing family is reached (`grow_sound`), and a family
  to which no class can be added knows every reached name up to case
  (`knows_of_reached`).  Case does not matter to a parent (`means_congr`), so any two such
  families are extended by the same classes.

  Main statement: `subclassesOf_eq_filter_descends`.
-/
import Mathlib.Logic.Function.Iterate
import Mathlib.Order.Bounds.Defs
import RouteAudit.Discovery.Catalog
import RouteAudit.Proofs.Syntax.Name

set_option autoImplicit false

namespace RouteAudit.Discovery

open RouteAudit.Syntax

/-! ## Names that a base leads to -/

section Reached

variable (link : Parent → String → Bool) (classes : List ClassEntry) (base : String)

/-- The names that a base leads to along a link from parents to names: the base itself
and, with a name, every class whose parent is linked to it. -/
inductive Reached : String → Prop where
  | base : Reached (trimLeading base)
  | ofParent {c : ClassEntry} {p : Parent} {name : String} :
      c ∈ classes → c.parent = some p → Reached name → link p name = true →
      Reached c.qualified

/-- A class descends from the base if its parent is linked to a name the base leads to. -/
def Descends (c : ClassEntry) : Prop :=
  ∃ p name, c.parent = some p ∧ Reached link classes base name ∧ link p name = true

/-- A set of names that holds the base and, with a name, every class whose parent is
linked to it. -/
structure IsClosed (names : Set String) : Prop where
  base_mem : trimLeading base ∈ names
  ofParent_mem : ∀ c ∈ classes, ∀ p, c.parent = some p → ∀ name ∈ names,
    link p name = true → c.qualified ∈ names

/-- The names that a base leads to are the least closed set. -/
theorem isLeast_reached :
    IsLeast {names | IsClosed link classes base names} {name | Reached link classes base name} := by
  constructor
  · exact ⟨.base, fun c hc p hp name hname hlink => .ofParent hc hp hname hlink⟩
  · intro names hclosed name hname
    induction hname with
    | base => exact hclosed.base_mem
    | ofParent hc hp _ hlink ih => exact hclosed.ofParent_mem _ hc _ hp _ ih hlink

variable {link classes base} in
/-- A class whose parent is linked to no name of a closed set does not descend from the
base. -/
theorem IsClosed.not_descends {names : Set String} (h : IsClosed link classes base names)
    {c : ClassEntry} {p : Parent} (hp : c.parent = some p)
    (hnone : ∀ name ∈ names, link p name = false) : ¬ Descends link classes base c := by
  rintro ⟨q, name, hq, hname, hlink⟩
  obtain rfl : p = q := Option.some.inj (hp.symm.trans hq)
  have hmem : name ∈ names := (isLeast_reached link classes base).2 h hname
  simp [hnone name hmem] at hlink

end Reached

section Mono

variable {link link' : Parent → String → Bool} {classes classes' : List ClassEntry}
  {base : String}

/-- More links and more classes lead to more names. -/
theorem Reached.mono (hlink : ∀ p name, link p name = true → link' p name = true)
    (hclasses : ∀ c ∈ classes, c ∈ classes') {name : String}
    (h : Reached link classes base name) : Reached link' classes' base name := by
  induction h with
  | base => exact .base
  | ofParent hc hp _ hmeans ih => exact .ofParent (hclasses _ hc) hp ih (hlink _ _ hmeans)

theorem Descends.mono (hlink : ∀ p name, link p name = true → link' p name = true)
    (hclasses : ∀ c ∈ classes, c ∈ classes') {c : ClassEntry}
    (h : Descends link classes base c) : Descends link' classes' base c := by
  obtain ⟨p, name, hp, hname, hmeans⟩ := h
  exact ⟨p, name, hp, hname.mono hlink hclasses, hlink p name hmeans⟩

end Mono

/-- The name of a class that descends from the base is one the base leads to. -/
theorem Descends.reached {link : Parent → String → Bool} {classes : List ClassEntry}
    {base : String} {c : ClassEntry} (h : Descends link classes base c) (hc : c ∈ classes) :
    Reached link classes base c.qualified := by
  obtain ⟨p, name, hp, hname, hlink⟩ := h
  exact .ofParent hc hp hname hlink

/-! ## Case does not matter -/

/-- A parent means a class whatever the case of its name. -/
theorem Parent.means_congr (p : Parent) {a b : String} (h : sameName a b = true) :
    p.means a = p.means b := by
  unfold Parent.means
  rw [isNamespaced_congr h, sameName_congr_right h, sameName_congr_right (shortName_congr h)]

theorem ClassEntry.extendsAny_iff {c : ClassEntry} {family : List String} :
    c.extendsAny family = true ↔
      ∃ p name, c.parent = some p ∧ name ∈ family ∧ p.means name = true := by
  unfold ClassEntry.extendsAny
  cases c.parent with
  | none => simp
  | some p => simp [List.any_eq_true]

namespace Catalog

theorem knows_iff {family : List String} {name : String} :
    knows family name = true ↔ ∃ member ∈ family, sameName member name = true := by
  simp [knows, List.any_eq_true]

/-! ## What growing keeps -/

theorem prefix_enroll (family : List String) (c : ClassEntry) : family <+: enroll family c := by
  unfold enroll
  split
  · exact List.prefix_append _ _
  · exact List.prefix_refl _

/-- Growing adds members at the end and takes none away. -/
theorem prefix_grow (order : List ClassEntry) (family : List String) :
    family <+: grow order family := by
  induction order generalizing family with
  | nil => exact List.prefix_refl _
  | cons c rest ih => exact (prefix_enroll family c).trans (ih (enroll family c))

/-- A look that leaves the number of members as it was leaves the family as it was. -/
theorem grow_eq_of_length_eq {order : List ClassEntry} {family : List String}
    (h : (grow order family).length = family.length) : grow order family = family :=
  ((prefix_grow order family).eq_of_length h.symm).symm

theorem length_lt_of_grow_ne {order : List ClassEntry} {family : List String}
    (h : grow order family ≠ family) : family.length < (grow order family).length := by
  have hle := (prefix_grow order family).length_le
  rcases Nat.lt_or_eq_of_le hle with hlt | heq
  · exact hlt
  · exact absurd (grow_eq_of_length_eq heq.symm) h

section Sound

variable {classes : List ClassEntry} {base : String}

theorem enroll_sound {family : List String} {c : ClassEntry} (hc : c ∈ classes)
    (h : ∀ name ∈ family, Reached Parent.means classes base name) :
    ∀ name ∈ enroll family c, Reached Parent.means classes base name := by
  intro name hname
  unfold enroll at hname
  split at hname
  · rename_i hnew
    simp only [Bool.and_eq_true] at hnew
    obtain ⟨p, member, hp, hmember, hmeans⟩ := ClassEntry.extendsAny_iff.1 hnew.2
    rcases List.mem_append.1 hname with hold | hadded
    · exact h name hold
    · rw [List.mem_singleton.1 hadded]
      exact .ofParent hc hp (h member hmember) hmeans
  · exact h name hname

/-- Whatever order the classes are looked at in, only reached names become members. -/
theorem grow_sound {order : List ClassEntry} {family : List String}
    (horder : ∀ c ∈ order, c ∈ classes)
    (h : ∀ name ∈ family, Reached Parent.means classes base name) :
    ∀ name ∈ grow order family, Reached Parent.means classes base name := by
  induction order generalizing family with
  | nil => exact h
  | cons c rest ih =>
    have hrest : ∀ d ∈ rest, d ∈ classes := fun d hd => horder d (List.mem_cons_of_mem _ hd)
    exact ih hrest (enroll_sound (horder c List.mem_cons_self) h)

end Sound

/-! ## When growing has ended -/

/-- No class can be added to the family. -/
def Settled (classes : List ClassEntry) (family : List String) : Prop :=
  ∀ c ∈ classes, enroll family c = family

theorem settled_of_grow_eq {classes : List ClassEntry} {family : List String}
    (h : grow classes family = family) : Settled classes family := by
  induction classes with
  | nil => exact fun c hc => absurd hc List.not_mem_nil
  | cons c rest ih =>
    have hstep : enroll family c = family := by
      have hback : enroll family c <+: family := by
        have hmore := prefix_grow rest (enroll family c)
        rwa [show grow rest (enroll family c) = family from h] at hmore
      exact hback.eq_of_length_le (prefix_enroll family c).length_le
    have hrest : grow rest family = family := by
      have hfold : grow rest (enroll family c) = family := h
      rwa [hstep] at hfold
    intro d hd
    rcases List.mem_cons.1 hd with rfl | hd
    · exact hstep
    · exact ih hrest d hd

/-- A class that extends a member of a settled family is known to it: passing over known
names loses no class. -/
theorem Settled.knows_of_extendsAny {classes : List ClassEntry} {family : List String}
    (h : Settled classes family) {c : ClassEntry} (hc : c ∈ classes)
    (hextends : c.extendsAny family = true) : knows family c.qualified = true := by
  cases hknown : knows family c.qualified with
  | true => rfl
  | false =>
    have hadded := h c hc
    simp [enroll, hknown, hextends] at hadded

/-- A settled family that knows the base knows every name that the base leads to. -/
theorem knows_of_reached {classes : List ClassEntry} {base name : String}
    {family : List String} (h : Settled classes family)
    (hbase : knows family (trimLeading base) = true)
    (hname : Reached Parent.means classes base name) : knows family name = true := by
  induction hname with
  | base => exact hbase
  | @ofParent c p name hc hp _ hmeans ih =>
    obtain ⟨member, hmember, hsame⟩ := knows_iff.1 ih
    rw [← p.means_congr hsame] at hmeans
    exact h.knows_of_extendsAny hc (ClassEntry.extendsAny_iff.2 ⟨p, member, hp, hmember, hmeans⟩)

/-- A settled family that grew from the base, in whatever order, is extended by exactly
the classes that descend from the base. -/
theorem extendsAny_grow_iff_descends {classes order : List ClassEntry} {base : String}
    (horder : ∀ c ∈ order, c ∈ classes)
    (h : Settled classes (grow order [trimLeading base])) (c : ClassEntry) :
    c.extendsAny (grow order [trimLeading base]) = true ↔
      Descends Parent.means classes base c := by
  constructor
  · intro hextends
    obtain ⟨p, member, hp, hmember, hmeans⟩ := ClassEntry.extendsAny_iff.1 hextends
    have hstart : ∀ name ∈ [trimLeading base], Reached Parent.means classes base name := by
      intro name hname
      rw [List.mem_singleton.1 hname]
      exact .base
    exact ⟨p, member, hp, grow_sound horder hstart member hmember, hmeans⟩
  · rintro ⟨p, name, hp, hname, hmeans⟩
    have hbase : knows (grow order [trimLeading base]) (trimLeading base) = true :=
      knows_grow (by simp [knows, sameName_refl])
    obtain ⟨member, hmember, hsame⟩ := knows_iff.1 (knows_of_reached h hbase hname)
    rw [← p.means_congr hsame] at hmeans
    exact ClassEntry.extendsAny_iff.2 ⟨p, member, hp, hmember, hmeans⟩

/-! ## The loop -/

/-- Looking at all classes several times is one way through a longer list of them. -/
theorem iterate_grow (classes : List ClassEntry) (looks : Nat) (family : List String) :
    (grow classes)^[looks] family = grow (List.replicate looks classes).flatten family := by
  induction looks generalizing family with
  | zero => rfl
  | succ looks ih =>
    rw [Function.iterate_succ_apply, ih, List.replicate_succ, List.flatten_cons]
    simp only [grow, List.foldl_append]

/-- The loop stops.  It looks no more often than there are unknown classes, each look but
the last adds a member, and the last leaves the family as it was. -/
theorem closure_eq_iterate (classes : List ClassEntry) (family : List String) :
    ∃ looks ≤ strangers classes family,
      closure classes family = (grow classes)^[looks] family ∧
      (∀ k < looks,
        ((grow classes)^[k] family).length < ((grow classes)^[k + 1] family).length) ∧
      grow classes (closure classes family) = closure classes family := by
  fun_induction closure classes family with
  | case1 family hstop => exact ⟨0, Nat.zero_le _, rfl, by simp, hstop⟩
  | case2 family hgoes ih =>
    obtain ⟨looks, hle, hclosure, hadds, hstop⟩ := ih
    have hlt := strangers_lt (fun _ => knows_grow) ((grow_eq_or classes family).resolve_left hgoes)
    refine ⟨looks + 1, Nat.le_trans (Nat.succ_le_succ hle) hlt, hclosure, ?_, hstop⟩
    intro k hk
    cases k with
    | zero => exact length_lt_of_grow_ne hgoes
    | succ k => exact hadds k (Nat.lt_of_succ_lt_succ hk)

theorem settled_family (catalog : Catalog) (base : String) :
    Settled catalog.classes (catalog.family base) := by
  obtain ⟨_, _, _, _, hstop⟩ := closure_eq_iterate catalog.classes [trimLeading base]
  exact settled_of_grow_eq hstop

/-- The classes that extend the family of a base are those that descend from it. -/
theorem extendsAny_family_iff (catalog : Catalog) (base : String) (c : ClassEntry) :
    c.extendsAny (catalog.family base) = true ↔
      Descends Parent.means catalog.classes base c := by
  obtain ⟨looks, _, hfamily, _, _⟩ := closure_eq_iterate catalog.classes [trimLeading base]
  rw [iterate_grow] at hfamily
  have hsettled := settled_family catalog base
  rw [family, hfamily] at hsettled ⊢
  refine extendsAny_grow_iff_descends (fun d hd => ?_) hsettled c
  obtain ⟨look, hlook, hd⟩ := List.mem_flatten.1 hd
  rwa [List.eq_of_mem_replicate hlook] at hd

open Classical in
theorem subclassesOf_eq_filter (catalog : Catalog) (base : String) :
    catalog.subclassesOf base = catalog.classes.filter fun c =>
      !c.isAbstract && decide (Descends Parent.means catalog.classes base c) := by
  unfold subclassesOf
  refine List.filter_congr fun c _ => ?_
  congr 1
  rw [Bool.eq_iff_iff, decide_eq_true_iff]
  exact extendsAny_family_iff catalog base c

/-! ## Classes apart from a base -/

/-- Classes whose parents mean neither the base nor any class but each other, such as those
of a cycle of parents that the base has no part in. -/
def Apart (classes : List ClassEntry) (base : String) (apart : ClassEntry → Bool) : Prop :=
  ∀ c ∈ classes, apart c = true → ∀ p, c.parent = some p →
    p.means (trimLeading base) = false ∧
      ∀ d ∈ classes, p.means d.qualified = true → apart d = true

section Apart

variable {classes : List ClassEntry} {base : String} {apart : ClassEntry → Bool}

/-- What the base leads to without the classes apart from it means nothing to them. -/
theorem Apart.not_means (h : Apart classes base apart) {c : ClassEntry} {p : Parent}
    (hc : c ∈ classes) (hapart : apart c = true) (hp : c.parent = some p) {name : String}
    (hname : Reached Parent.means (classes.filter fun c => !apart c) base name) :
    p.means name = false := by
  obtain ⟨hbase, hothers⟩ := h c hc hapart p hp
  cases hname with
  | base => exact hbase
  | @ofParent d _ _ hd _ _ _ =>
    obtain ⟨hd, hkept⟩ := List.mem_filter.1 hd
    rw [Bool.eq_false_iff]
    intro hmeans
    simp [hothers d hd hmeans] at hkept

/-- All names that a base leads to are found without the classes apart from it. -/
theorem Apart.reached_filter (h : Apart classes base apart) {name : String}
    (hname : Reached Parent.means classes base name) :
    Reached Parent.means (classes.filter fun c => !apart c) base name := by
  induction hname with
  | base => exact .base
  | @ofParent c p name hc hp _ hmeans ih =>
    refine .ofParent (List.mem_filter.2 ⟨hc, ?_⟩) hp ih hmeans
    cases hapart : apart c with
    | false => rfl
    | true => simp [h.not_means hc hapart hp ih] at hmeans

/-- Exactly the classes that are not apart from the base can descend from it, and they do
so without the others. -/
theorem Apart.descends_iff (h : Apart classes base apart) {c : ClassEntry} (hc : c ∈ classes) :
    Descends Parent.means classes base c ↔
      apart c = false ∧ Descends Parent.means (classes.filter fun c => !apart c) base c := by
  constructor
  · rintro ⟨p, name, hp, hname, hmeans⟩
    have hkept := h.reached_filter hname
    refine ⟨?_, p, name, hp, hkept, hmeans⟩
    rw [Bool.eq_false_iff]
    intro hapart
    simp [h.not_means hc hapart hp hkept] at hmeans
  · rintro ⟨_, hdescends⟩
    exact hdescends.mono (fun _ _ => id) (fun d hd => (List.mem_filter.1 hd).1)

end Apart

theorem subclassesOf_filter_apart (catalog : Catalog) (base : String)
    {apart : ClassEntry → Bool} (h : Apart catalog.classes base apart) :
    subclassesOf ⟨catalog.classes.filter fun c => !apart c⟩ base = catalog.subclassesOf base := by
  classical
  rw [subclassesOf_eq_filter, subclassesOf_eq_filter, List.filter_filter]
  refine List.filter_congr fun c hc => ?_
  rw [Bool.eq_iff_iff]
  simp only [Bool.and_eq_true, decide_eq_true_iff, Bool.not_eq_true', h.descends_iff hc]
  exact and_assoc.trans (and_congr_right fun _ => and_comm)

/-! ## What is found -/

open Classical in
/-- The subclasses of a base are the classes of the catalog that are not abstract and
descend from it, each as often and in the order in which the catalog lists them.

The loop that finds them stops after at most one look for each class.  The names that the
base leads to are the least closed set; no other order of looking at the classes, once it
has ended, finds others; and classes that are apart from the base make no difference. -/
theorem subclassesOf_eq_filter_descends (catalog : Catalog) (base : String) :
    (∃ looks ≤ catalog.classes.length,
      catalog.family base = (grow catalog.classes)^[looks] [trimLeading base] ∧
      (∀ k < looks, ((grow catalog.classes)^[k] [trimLeading base]).length <
        ((grow catalog.classes)^[k + 1] [trimLeading base]).length) ∧
      grow catalog.classes (catalog.family base) = catalog.family base) ∧
    IsLeast {names | IsClosed Parent.means catalog.classes base names}
      {name | Reached Parent.means catalog.classes base name} ∧
    (catalog.subclassesOf base = catalog.classes.filter fun c =>
      !c.isAbstract && decide (Descends Parent.means catalog.classes base c)) ∧
    (∀ order : List ClassEntry, (∀ c ∈ order, c ∈ catalog.classes) →
      Settled catalog.classes (grow order [trimLeading base]) →
      catalog.subclassesOf base = catalog.classes.filter fun c =>
        !c.isAbstract && c.extendsAny (grow order [trimLeading base])) ∧
    (∀ apart : ClassEntry → Bool, Apart catalog.classes base apart →
      subclassesOf ⟨catalog.classes.filter fun c => !apart c⟩ base =
        catalog.subclassesOf base) := by
  refine ⟨?_, isLeast_reached _ _ _, subclassesOf_eq_filter catalog base, ?_,
    fun apart h => subclassesOf_filter_apart catalog base h⟩
  · obtain ⟨looks, hle, hloop⟩ := closure_eq_iterate catalog.classes [trimLeading base]
    exact ⟨looks, Nat.le_trans hle List.countP_le_length, hloop⟩
  · intro order horder hsettled
    rw [subclassesOf_eq_filter]
    refine List.filter_congr fun c _ => ?_
    congr 1
    rw [Bool.eq_iff_iff, decide_eq_true_iff]
    exact (extendsAny_grow_iff_descends horder hsettled c).symm

end Catalog

end RouteAudit.Discovery
