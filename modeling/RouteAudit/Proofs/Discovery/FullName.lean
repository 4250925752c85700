/-
  Proofs/Discovery/FullName.lean --- parents whose full name is known.

  WHAT THIS FILE IS FOR.  A resolved parent carries its full name, so it should be the
  class of that name and no other.  `Parent.means` holds to this for classes in a
  namespace.  A class without one is compared by its short name even then, and it may have
  joined the family on the way: from there on a class is found whose parent is another
  class altogether.  Such a class strays from the base.

  Main statement: `subclassesOf_eq_filter_named_iff`.
-/
import RouteAudit.Proofs.Discovery.Family

set_option autoImplicit false

namespace RouteAudit.Discovery

open RouteAudit.Syntax

/-- Whether the full name of a parent is the given name. -/
def Parent.names (p : Parent) (name : String) : Bool := sameName p.name name

/-! ## When a parent means a class -/

/-- A parent means at least the class that it names. -/
theorem Parent.means_of_names {p : Parent} {name : String} (h : p.names name = true) :
    p.means name = true := by
  unfold Parent.means
  split
  · exact h
  · exact shortName_congr h

/-- A name without a namespace is meant by every parent of that short name. -/
theorem Parent.means_of_short {p : Parent} {name : String} (hglobal : isNamespaced name = false)
    (h : sameName (shortName p.name) name = true) : p.means name = true := by
  unfold Parent.means
  rw [hglobal, Bool.and_false]
  simpa [shortName_of_not_namespaced hglobal] using h

/-- A resolved parent means the class that it names, and besides it only a class without a
namespace. -/
theorem Parent.means_cases {p : Parent} (hresolved : p.resolved = true) {name : String}
    (h : p.means name = true) :
    p.names name = true ∨
      isNamespaced name = false ∧ sameName (shortName p.name) name = true := by
  unfold Parent.means at h
  rw [hresolved, Bool.true_and] at h
  split at h
  · exact .inl h
  · rename_i hglobal
    rw [Bool.not_eq_true] at hglobal
    rw [shortName_of_not_namespaced hglobal] at h
    exact .inr ⟨hglobal, h⟩

/-! ## Classes that stray -/

/-- A class strays from the base if full names do not lead from it to the base, but its
parent has the short name of a class or base without a namespace to which they do lead, or
means a class that strays. -/
inductive Strays (classes : List ClassEntry) (base : String) : ClassEntry → Prop where
  | byShortName {c : ClassEntry} {p : Parent} {name : String} :
      c.parent = some p → Reached Parent.names classes base name →
      isNamespaced name = false → sameName (shortName p.name) name = true →
      ¬ Descends Parent.names classes base c → Strays classes base c
  | behind {c d : ClassEntry} {p : Parent} :
      c.parent = some p → d ∈ classes → Strays classes base d → p.means d.qualified = true →
      ¬ Descends Parent.names classes base c → Strays classes base c

section Strays

variable {classes : List ClassEntry} {base : String}

theorem Strays.not_named {c : ClassEntry} (h : Strays classes base c) :
    ¬ Descends Parent.names classes base c := by
  cases h with
  | byShortName _ _ _ _ hnot => exact hnot
  | behind _ _ _ _ hnot => exact hnot

/-- A class that strays is found all the same. -/
theorem Strays.descends {c : ClassEntry} (h : Strays classes base c) :
    Descends Parent.means classes base c := by
  induction h with
  | @byShortName c p name hp hname hglobal hshort _ =>
    have hreached := hname.mono (fun _ _ => Parent.means_of_names) (fun _ => id)
    exact ⟨p, name, hp, hreached, Parent.means_of_short hglobal hshort⟩
  | @behind c d p hp hd _ hmeans _ ih => exact ⟨p, d.qualified, hp, ih.reached hd, hmeans⟩

/-- Where a name leads to the base, full names do so from it or a class of that name strays. -/
def NamedOrStray (classes : List ClassEntry) (base name : String) : Prop :=
  Reached Parent.names classes base name ∨
    ∃ d ∈ classes, Strays classes base d ∧ d.qualified = name

theorem named_or_strays {c : ClassEntry} {p : Parent} {name : String} (hp : c.parent = some p)
    (hresolved : p.resolved = true) (hname : NamedOrStray classes base name)
    (hmeans : p.means name = true) :
    Descends Parent.names classes base c ∨ Strays classes base c := by
  by_cases hnot : Descends Parent.names classes base c
  · exact .inl hnot
  · refine .inr ?_
    rcases hname with hreached | ⟨d, hd, hstrays, rfl⟩
    · rcases Parent.means_cases hresolved hmeans with hnames | ⟨hglobal, hshort⟩
      · exact absurd ⟨p, name, hp, hreached, hnames⟩ hnot
      · exact .byShortName hp hreached hglobal hshort hnot
    · exact .behind hp hd hstrays hmeans hnot

variable (hresolved : ∀ c ∈ classes, ∀ p, c.parent = some p → p.resolved = true)
include hresolved

theorem namedOrStray_of_reached {name : String} (h : Reached Parent.means classes base name) :
    NamedOrStray classes base name := by
  induction h with
  | base => exact .inl .base
  | @ofParent c p name hc hp _ hmeans ih =>
    rcases named_or_strays hp (hresolved c hc p hp) ih hmeans with hnamed | hstrays
    · exact .inl (hnamed.reached hc)
    · exact .inr ⟨c, hc, hstrays, rfl⟩

/-- Among classes with resolved parents, those that are found are those that full names
lead from to the base, and those that stray. -/
theorem descends_iff_named_or_strays {c : ClassEntry} (hc : c ∈ classes) :
    Descends Parent.means classes base c ↔
      Descends Parent.names classes base c ∨ Strays classes base c := by
  constructor
  · rintro ⟨p, name, hp, hname, hmeans⟩
    exact named_or_strays hp (hresolved c hc p hp) (namedOrStray_of_reached hresolved hname) hmeans
  · rintro (hnamed | hstrays)
    · exact hnamed.mono (fun _ _ => Parent.means_of_names) (fun _ => id)
    · exact hstrays.descends

end Strays

/-- Where the base and all classes that full names lead from to it have a namespace, no
class strays. -/
theorem not_strays_of_namespaced {classes : List ClassEntry} {base : String}
    (hbase : isNamespaced (trimLeading base) = true)
    (hclasses : ∀ c ∈ classes, Descends Parent.names classes base c →
      isNamespaced c.qualified = true) (c : ClassEntry) : ¬ Strays classes base c := by
  intro h
  induction h with
  | @byShortName c p name _ hname hglobal _ _ =>
    cases hname with
    | base => simp [hbase] at hglobal
    | @ofParent d q before hd hq hbefore hnames =>
      have hspace := hclasses d hd ⟨q, before, hq, hbefore, hnames⟩
      simp [hspace] at hglobal
  | behind _ _ _ _ _ ih => exact ih

namespace Catalog

open Classical in
/-- In a catalog whose parents are all resolved, the subclasses of a base are the classes
that full names lead from to it, exactly when no class strays that is not abstract.  None
of the former is ever lost, and none strays where the base and all of them have a
namespace. -/
theorem subclassesOf_eq_filter_named_iff (catalog : Catalog) (base : String)
    (hresolved : ∀ c ∈ catalog.classes, ∀ p, c.parent = some p → p.resolved = true) :
    (∀ c ∈ catalog.classes, c.isAbstract = false →
      Descends Parent.names catalog.classes base c → c ∈ catalog.subclassesOf base) ∧
    ((catalog.subclassesOf base = catalog.classes.filter fun c =>
        !c.isAbstract && decide (Descends Parent.names catalog.classes base c)) ↔
      ∀ c ∈ catalog.classes, c.isAbstract = false → ¬ Strays catalog.classes base c) ∧
    (isNamespaced (trimLeading base) = true →
      (∀ c ∈ catalog.classes, Descends Parent.names catalog.classes base c →
        isNamespaced c.qualified = true) →
      catalog.subclassesOf base = catalog.classes.filter fun c =>
        !c.isAbstract && decide (Descends Parent.names catalog.classes base c)) := by
  have hiff : (catalog.subclassesOf base = catalog.classes.filter fun c =>
        !c.isAbstract && decide (Descends Parent.names catalog.classes base c)) ↔
      ∀ c ∈ catalog.classes, c.isAbstract = false → ¬ Strays catalog.classes base c := by
    rw [subclassesOf_eq_filter]
    constructor
    · intro heq c hc hconcrete hstrays
      have hfound : c ∈ catalog.classes.filter fun c =>
          !c.isAbstract && decide (Descends Parent.means catalog.classes base c) := by
        simp [hc, hconcrete, hstrays.descends]
      rw [heq] at hfound
      simp [hstrays.not_named] at hfound
    · intro hnone
      refine List.filter_congr fun c hc => ?_
      cases hconcrete : c.isAbstract with
      | true => rfl
      | false =>
        have hdescends : Descends Parent.means catalog.classes base c ↔
            Descends Parent.names catalog.classes base c ∨ Strays catalog.classes base c :=
          descends_iff_named_or_strays hresolved hc
        rw [or_iff_left (hnone c hc hconcrete)] at hdescends
        simp [hdescends]
  refine ⟨?_, hiff, ?_⟩
  · intro c hc hconcrete hnamed
    have hdescends := hnamed.mono (fun _ _ => Parent.means_of_names) (fun _ => id)
    rw [subclassesOf_eq_filter]
    simp [hc, hconcrete, hdescends]
  · intro hbase hclasses
    exact hiff.2 fun c _ _ => not_strays_of_namespaced hbase hclasses c

/-! ### With and without a namespace -/

/-- `Tests\AdminCase` is abstract and extends the base class, `App\UserTest` extends it, and
`App\RoleTest` extends another class that is called `AdminCase`. -/
def namespacedFiles : List ParsedFile :=
  [⟨⟨"tests/AdminCase.php"⟩, ⟨.program, 1,
    [⟨.namespaceDecl "Tests", 1, []⟩,
      ⟨.classDecl "AdminCase" (some "\\Tests\\TestCase") true, 2, []⟩]⟩⟩,
   ⟨⟨"tests/UserTest.php"⟩, ⟨.program, 1,
    [⟨.namespaceDecl "App", 1, []⟩,
      ⟨.classDecl "UserTest" (some "\\Tests\\AdminCase") false, 2, []⟩,
      ⟨.classDecl "RoleTest" (some "\\Other\\AdminCase") false, 3, []⟩]⟩⟩]

open Classical in
theorem subclassesOf_namespacedFiles :
    (∀ c ∈ (ofFiles namespacedFiles).classes, ∀ p, c.parent = some p → p.resolved = true) ∧
    (ofFiles namespacedFiles).subclassesOf "Tests\\TestCase" =
      (ofFiles namespacedFiles).classes.filter fun c => !c.isAbstract &&
        decide (Descends Parent.names (ofFiles namespacedFiles).classes "Tests\\TestCase" c) := by
  have hresolved : ∀ c ∈ (ofFiles namespacedFiles).classes, ∀ p,
      c.parent = some p → p.resolved = true := by
    have hall : (ofFiles namespacedFiles).classes.all
        (fun c => c.parent.all (·.resolved)) = true := by decide
    intro c hc p hp
    have hparent := List.all_eq_true.1 hall c hc
    rwa [hp] at hparent
  have hspace : (ofFiles namespacedFiles).classes.all
      (fun c => isNamespaced c.qualified) = true := by decide
  refine ⟨hresolved, ?_⟩
  exact (subclassesOf_eq_filter_named_iff _ _ hresolved).2.2 (by decide)
    fun c hc _ => List.all_eq_true.1 hspace c hc

/-- `Base` stands in no namespace and extends the base class, and `App\Leaf` extends
another class that is called `Base`. -/
def globalFiles : List ParsedFile :=
  [⟨⟨"tests/Base.php"⟩, ⟨.program, 1,
    [⟨.classDecl "Base" (some "\\Tests\\TestCase") false, 2, []⟩]⟩⟩,
   ⟨⟨"tests/Leaf.php"⟩, ⟨.program, 1,
    [⟨.namespaceDecl "App", 1, []⟩,
      ⟨.classDecl "Leaf" (some "\\Other\\Base") false, 2, []⟩]⟩⟩]

open Classical in
/-- All parents are resolved and the base is namespaced, but `App\Leaf` is found. -/
theorem subclassesOf_globalFiles :
    (∀ c ∈ (ofFiles globalFiles).classes, ∀ p, c.parent = some p → p.resolved = true) ∧
    isNamespaced "Tests\\TestCase" = true ∧
    (ofFiles globalFiles).subclassesOf "Tests\\TestCase" ≠
      (ofFiles globalFiles).classes.filter fun c => !c.isAbstract &&
        decide (Descends Parent.names (ofFiles globalFiles).classes "Tests\\TestCase" c) := by
  have hclasses : ∃ b l : ClassEntry, (ofFiles globalFiles).classes = [b, l] ∧
      b.qualified = "Base" ∧ b.parent = some ⟨"Tests\\TestCase", true⟩ ∧
      l.parent = some ⟨"Other\\Base", true⟩ ∧ l.isAbstract = false :=
    ⟨_, _, rfl, rfl, rfl, rfl, rfl⟩
  obtain ⟨b, l, hclasses, hname, hb, hl, hconcrete⟩ := hclasses
  have hbase : trimLeading "Tests\\TestCase" = "Tests\\TestCase" := by decide
  rw [hclasses]
  have hmem : ∀ c ∈ [b, l], c = b ∨ c = l := by simp
  -- Full names lead to the base class and to `Base`, and `App\Leaf` extends neither.
  have hother : ∀ name ∈ ({"Tests\\TestCase", "Base"} : Set String),
      Parent.names ⟨"Other\\Base", true⟩ name = false := by
    rintro name (rfl | rfl)
    · decide
    · decide
  have hclosed : IsClosed Parent.names [b, l] "Tests\\TestCase" {"Tests\\TestCase", "Base"} := by
    refine ⟨.inl hbase, fun c hc p hp name hmember hnames => ?_⟩
    rcases hmem c hc with rfl | rfl
    · exact .inr hname
    · obtain rfl : _ = p := Option.some.inj (hl.symm.trans hp)
      rw [hother name hmember] at hnames
      exact absurd hnames Bool.false_ne_true
  have hnot : ¬ Descends Parent.names [b, l] "Tests\\TestCase" l := hclosed.not_descends hl hother
  have hstrays : Strays [b, l] "Tests\\TestCase" l := by
    have hreached : Reached Parent.names [b, l] "Tests\\TestCase" b.qualified :=
      .ofParent List.mem_cons_self hb .base (by rw [hbase]; decide)
    rw [hname] at hreached
    exact .byShortName hl hreached (by decide) (by decide) hnot
  refine ⟨?_, by decide, ?_⟩
  · intro c hc p hp
    rcases hmem c hc with rfl | rfl
    · exact Option.some.inj (hb.symm.trans hp) ▸ rfl
    · exact Option.some.inj (hl.symm.trans hp) ▸ rfl
  · rw [subclassesOf_eq_filter, hclasses]
    intro heq
    have hfound : l ∈ [b, l].filter fun c =>
        !c.isAbstract && decide (Descends Parent.means [b, l] "Tests\\TestCase" c) := by
      simp [hconcrete, hstrays.descends]
    rw [heq] at hfound
    simp [hnot] at hfound

end Catalog

end RouteAudit.Discovery
