/-
  Proofs/Discovery/Lexical.lean --- namespaces and imports by their place in the text.

  WHAT THIS FILE IS FOR.  `survey` carries one scope through a file and never takes it back
  when it leaves a block.  A reader of the file looks at it differently: a class stands in a
  block, the braced one around it or what follows the last namespace before it, and counts
  under the name of this block and the imports that come before the class in it.  Both
  agree wherever the blocks are of one style and classes hold neither namespaces nor imports.

  HOW IT GOES.  Up to any place of a file, the scope that was carried there is the one of the
  block that the last namespace opened (`surveyed_eq`); the induction is on the places before
  it.  A braced block around a class or import is the last one opened before it, as blocks do
  not hold blocks (`Braced.block?_eq`).

  Main statement: `classes_ofFiles`.
-/
import Mathlib.Data.List.Induction
import RouteAudit.Discovery.Catalog
import RouteAudit.Proofs.Syntax.Order

set_option autoImplicit false

namespace RouteAudit.Discovery

open RouteAudit.Syntax

/-! ## Blocks -/

/-- How the namespaces of a file are written: with their blocks in braces, or each with all
that follows it up to the next one. -/
inductive Style where
  | braced
  | unbraced
  deriving DecidableEq, Repr

/-- The classes and imports stand in blocks, and blocks do not hold blocks. -/
structure Braced (t : Node) : Prop where
  inside : ∀ place ∈ t.places,
    place.node.category = .classDecl ∨ place.node.category = .importClause →
      t.Inside .namespaceDecl place.address
  apart : ∀ place ∈ t.places, place.node.category = .namespaceDecl →
    ¬ t.Inside .namespaceDecl place.address

/-- No namespace has a block in braces. -/
def Unbraced (t : Node) : Prop :=
  ∀ place ∈ t.places, place.node.category = .namespaceDecl → place.node.children = []

/-- Whether the namespaces of a file are of a style. -/
def Style.Fits : Style → Node → Prop
  | .braced, t => Braced t
  | .unbraced, t => Unbraced t

/-- Classes hold neither namespaces nor imports. -/
def Shallow (t : Node) : Prop :=
  ∀ place ∈ t.places,
    place.node.category = .namespaceDecl ∨ place.node.category = .importClause →
      ¬ t.Inside .classDecl place.address

instance (t : Node) : Decidable (Shallow t) :=
  inferInstanceAs (Decidable (∀ place ∈ t.places, _))

instance (t : Node) : Decidable (Unbraced t) :=
  inferInstanceAs (Decidable (∀ place ∈ t.places, _))

instance (t : Node) : Decidable (Braced t) :=
  decidable_of_iff (_ ∧ _) ⟨fun h => ⟨h.1, h.2⟩, fun h => ⟨h.inside, h.apart⟩⟩

instance (style : Style) (t : Node) : Decidable (style.Fits t) :=
  match style with
  | .braced => inferInstanceAs (Decidable (Braced t))
  | .unbraced => inferInstanceAs (Decidable (Unbraced t))

/-- The last namespace among the places. -/
def lastNamespace? (places : List Place) : Option Place :=
  (places.filter (·.node.category = .namespaceDecl)).getLast?

/-- The namespace whose block an address stands in: the one around it, or the last one
before it. -/
def Style.block? (style : Style) (t : Node) (p : List Nat) : Option Place :=
  match style with
  | .braced => t.places.find? fun place =>
      place.node.category = .namespaceDecl ∧ place.address <+: p ∧ place.address ≠ p
  | .unbraced => lastNamespace? (t.placesBefore p)

/-! ## Scopes -/

/-- The alias that a node imports; an import without one is known by its last segment. -/
def imported? (t : Node) : Option Alias :=
  match t.head with
  | .importClause name (some knownAs) => some ⟨knownAs, name⟩
  | .importClause name none => some ⟨shortName name, name⟩
  | _ => none

/-- The name of a block, and the imports among some places that stand in it. -/
def blockScope (block? : List Nat → Option Place) (own : Option Place) (places : List Place) :
    Scope where
  space := (own.bind (·.node.name?)).getD ""
  imports := (places.filter fun place => place.node.category = .importClause ∧
    (block? place.address).map (·.address) = own.map (·.address)).filterMap (imported? ·.node)

/-- The scope that an address stands in: the name of its block, and the imports before it in
the same block. -/
def Style.scopeAt (style : Style) (t : Node) (p : List Nat) : Scope :=
  blockScope (style.block? t) (style.block? t p) (t.placesBefore p)

/-- The classes of a file that lie in no other class. -/
def outerClasses (t : Node) (places : List Place) : List Place :=
  places.filter fun place =>
    place.node.category = .classDecl ∧ ¬ t.Inside .classDecl place.address

/-! ## What one more place changes -/

theorem lastNamespace?_concat (places : List Place) (place : Place) :
    lastNamespace? (places ++ [place]) =
      if place.node.category = .namespaceDecl then some place else lastNamespace? places := by
  unfold lastNamespace?
  by_cases h : place.node.category = .namespaceDecl
  · simp [List.filter_append, h]
  · simp [List.filter_append, h]

theorem lastNamespace?_mem {places : List Place} {place : Place}
    (h : lastNamespace? places = some place) : place ∈ places :=
  (List.mem_filter.1 (List.mem_of_getLast? h)).1

/-- The last namespace before a place has a lesser address. -/
theorem unbraced_block?_lt {t : Node} {place b : Place} (hplace : place ∈ t.places)
    (h : Style.unbraced.block? t place.address = some b) : b.address < place.address :=
  ((Node.mem_placesBefore hplace).1 (lastNamespace?_mem h)).2

theorem outerClasses_concat_of_ne {t : Node} {places : List Place} {place : Place}
    (h : place.node.category ≠ .classDecl) :
    outerClasses t (places ++ [place]) = outerClasses t places := by
  simp [outerClasses, List.filter_append, h]

section Concat

variable {block? : List Nat → Option Place} {own : Option Place} {places : List Place}
  {place : Place}

/-- What is no import does not change what is imported. -/
theorem blockScope_concat_of_ne (h : place.node.category ≠ .importClause) :
    blockScope block? own (places ++ [place]) = blockScope block? own places := by
  simp [blockScope, List.filter_append, h]

/-- An import is added in its own block. -/
theorem blockScope_concat_of_import {name : String} {knownAs : Option String}
    (hhead : place.node.head = .importClause name knownAs)
    (hblock : block? place.address = own) :
    blockScope block? own (places ++ [place]) =
      { blockScope block? own places with
        imports := (blockScope block? own places).imports ++ [importedAlias name knownAs] } := by
  have hcategory : place.node.category = .importClause := by rw [Node.category, hhead]; rfl
  have himported : imported? place.node = some (importedAlias name knownAs) := by
    cases knownAs with
    | none => simp [imported?, importedAlias, hhead]
    | some shown => simp [imported?, importedAlias, hhead]
  simp [blockScope, List.filter_append, hcategory, hblock, himported]

/-- Nothing is imported into a block that none of the places stands in. -/
theorem blockScope_of_fresh {name : String} (hhead : place.node.head = .namespaceDecl name)
    (hfresh : ∀ other ∈ places, ∀ b, block? other.address = some b → b.address ≠ place.address) :
    blockScope block? (some place) places = { space := name } := by
  have hnone : ∀ other ∈ places, ¬ ((block? other.address).map (·.address) =
      (some place).map (·.address)) := by
    intro other hother heq
    obtain ⟨b, hb, haddress⟩ := Option.map_eq_some_iff.1 heq
    exact hfresh other hother b hb haddress
  have hfilter : (places.filter fun other => other.node.category = .importClause ∧
      (block? other.address).map (·.address) = (some place).map (·.address)) = [] := by
    rw [List.filter_eq_nil_iff]
    intro other hother
    simpa using fun _ => hnone other hother
  rw [blockScope, hfilter]
  simp [Node.name?, hhead, Head.name?]

end Concat

/-! ## The scope that is carried -/

section Survey

variable (path : Path) (t : Node)

/-- The survey of a file after some of its places. -/
def surveyed (places : List Place) : Survey :=
  (places.filter fun place => ¬ t.Inside .classDecl place.address).foldl
    (fun s place => (survey path s place.node).1) {}

/-- The survey of a file after some of its places as they are read in their blocks. -/
def lexicalSurvey (places : List Place) : Survey where
  scope := blockScope (Style.unbraced.block? t) (lastNamespace? places) places
  classes := ((outerClasses t places).map fun c =>
    (Style.unbraced.scopeAt t c.address).entry path c.node).reverse

theorem surveyed_concat (places : List Place) (place : Place) :
    surveyed path t (places ++ [place]) =
      if t.Inside .classDecl place.address then surveyed path t places
      else (survey path (surveyed path t places) place.node).1 := by
  unfold surveyed
  by_cases h : t.Inside .classDecl place.address
  · simp [List.filter_append, h]
  · simp [List.filter_append, h]

/-- A survey turns away at classes and nowhere else. -/
theorem survey_snd (s : Survey) (node : Node) :
    (survey path s node).2 = if node.category = .classDecl then .past else .into := by
  unfold survey Node.category
  cases node.head with
  | _ => rfl

theorem classesOf_eq_surveyed (file : ParsedFile) :
    classesOf file = (surveyed file.path file.program file.program.places).classes.reverse := by
  rw [classesOf, Node.walk_eq_foldl_places (survey_snd file.path)]
  rfl

variable {t} {places after : List Place} {place : Place}

/-- A place changes what is read in the blocks just as it changes the scope that is carried. -/
theorem lexicalSurvey_concat (hshallow : Shallow t)
    (hplaces : t.places = places ++ place :: after) :
    lexicalSurvey path t (places ++ [place]) =
      if t.Inside .classDecl place.address then lexicalSurvey path t places
      else (survey path (lexicalSurvey path t places) place.node).1 := by
  have hmem : place ∈ t.places := hplaces ▸ List.mem_append_right _ List.mem_cons_self
  have hbefore : t.placesBefore place.address = places := Node.placesBefore_eq hplaces
  have hblock : Style.unbraced.block? t place.address = lastNamespace? places := by
    rw [Style.block?, hbefore]
  rw [lexicalSurvey, lastNamespace?_concat]
  cases hhead : place.node.head with
  | namespaceDecl name =>
    have hcategory : place.node.category = .namespaceDecl := by rw [Node.category, hhead]; rfl
    have hfresh : ∀ other ∈ places, ∀ b,
        Style.unbraced.block? t other.address = some b → b.address ≠ place.address := by
      intro other hother b hb
      have hlt := Node.lt_of_places_eq hplaces hother
      have hearlier := unbraced_block?_lt (hplaces ▸ List.mem_append_left _ hother) hb
      exact ne_of_lt (hearlier.trans hlt)
    rw [if_pos hcategory, blockScope_concat_of_ne (by simp [hcategory]),
      blockScope_of_fresh hhead hfresh, outerClasses_concat_of_ne (by simp [hcategory]),
      if_neg (hshallow place hmem (.inl hcategory))]
    simp [survey, hhead, lexicalSurvey]
  | importClause name knownAs =>
    have hcategory : place.node.category = .importClause := by rw [Node.category, hhead]; rfl
    rw [if_neg (by simp [hcategory]), blockScope_concat_of_import hhead hblock,
      outerClasses_concat_of_ne (by simp [hcategory]),
      if_neg (hshallow place hmem (.inr hcategory))]
    simp [survey, hhead, lexicalSurvey]
  | classDecl name parent isAbstract =>
    have hcategory : place.node.category = .classDecl := by rw [Node.category, hhead]; rfl
    rw [if_neg (by simp [hcategory]), blockScope_concat_of_ne (by simp [hcategory])]
    by_cases hinside : t.Inside .classDecl place.address
    · simp [outerClasses, List.filter_append, hinside, lexicalSurvey]
    · simp [outerClasses, List.filter_append, hinside, hcategory, survey, hhead, lexicalSurvey,
        Style.scopeAt, hbefore, hblock]
  | _ =>
    have hcategory : place.node.category ≠ .namespaceDecl ∧
        place.node.category ≠ .importClause ∧ place.node.category ≠ .classDecl := by
      simp [Node.category, hhead, Head.category]
    rw [if_neg hcategory.1, blockScope_concat_of_ne hcategory.2.1,
      outerClasses_concat_of_ne hcategory.2.2]
    simp [survey, hhead, lexicalSurvey]

/-- Up to any place, what was carried there is what is read in the blocks. -/
theorem surveyed_eq (hshallow : Shallow t) (places : List Place) (h : places <+: t.places) :
    surveyed path t places = lexicalSurvey path t places := by
  induction places using List.reverseRecOn with
  | nil => rfl
  | append_singleton places place ih =>
    obtain ⟨after, hplaces⟩ := h
    rw [List.append_assoc, List.singleton_append] at hplaces
    rw [surveyed_concat, ih ⟨_, hplaces⟩, lexicalSurvey_concat path hshallow hplaces.symm]

end Survey

/-! ## Both styles -/

/-- The block around a class or an import is the last one opened before it. -/
theorem Braced.block?_eq {t : Node} (h : Braced t) {place : Place} (hplace : place ∈ t.places)
    (hcategory : place.node.category = .classDecl ∨ place.node.category = .importClause) :
    Style.braced.block? t place.address = Style.unbraced.block? t place.address := by
  obtain ⟨b, hb⟩ : ∃ b, Style.braced.block? t place.address = some b := by
    rw [← Option.isSome_iff_exists, Style.block?, List.find?_isSome]
    simpa [Node.Inside] using h.inside place hplace hcategory
  have hfound := List.find?_some hb
  simp only [decide_eq_true_eq] at hfound
  obtain ⟨hnamespace, habove, hne⟩ := hfound
  have hmem : b ∈ t.places := List.mem_of_find?_eq_some hb
  have hbefore : b ∈ t.placesBefore place.address :=
    (Node.mem_placesBefore hplace).2 ⟨hmem, lt_of_prefix habove hne⟩
  obtain ⟨first, last, hsplit⟩ := List.append_of_mem hbefore
  -- A namespace between the block and the place would lie in the block.
  have hlast : ∀ other ∈ last, other.node.category ≠ .namespaceDecl := by
    intro other hother hinner
    obtain ⟨hbetween, hbelow⟩ := Node.inside_of_between hplace habove hsplit hother
    exact h.apart other hbetween hinner ⟨b, hmem, hnamespace, hbelow⟩
  have hnone : last.filter (·.node.category = .namespaceDecl) = [] := by
    rw [List.filter_eq_nil_iff]
    simpa using hlast
  rw [hb, Style.block?, lastNamespace?, hsplit, List.filter_append,
    List.filter_cons_of_pos (by simpa using hnamespace), hnone, List.getLast?_concat]

/-- For a class, the scope by the blocks around is the one by the last namespace. -/
theorem Style.scopeAt_eq {style : Style} {t : Node} (h : style.Fits t) {place : Place}
    (hplace : place ∈ t.places) (hclass : place.node.category = .classDecl) :
    style.scopeAt t place.address = Style.unbraced.scopeAt t place.address := by
  cases style with
  | unbraced => rfl
  | braced =>
    have hbraced : Braced t := h
    unfold Style.scopeAt blockScope
    rw [hbraced.block?_eq hplace (.inl hclass)]
    congr 2
    refine List.filter_congr fun other hother => ?_
    have hmem := ((Node.mem_placesBefore hplace).1 hother).1
    by_cases himport : other.node.category = .importClause
    · rw [hbraced.block?_eq hmem (.inr himport)]
    · simp [himport]

namespace Catalog

/-- In files with namespaces of one style each, whose classes hold neither namespaces nor
imports, the catalog lists the classes that lie in no other class, file by file and in the
order of the text, each with the scope of its own block.  It consists of the catalogs of the
single files. -/
theorem classes_ofFiles (style : ParsedFile → Style) (files : List ParsedFile)
    (h : ∀ file ∈ files, Shallow file.program ∧ (style file).Fits file.program) :
    (ofFiles files).classes = (files.flatMap fun file =>
      (outerClasses file.program file.program.places).map fun c =>
        ((style file).scopeAt file.program c.address).entry file.path c.node) ∧
    (ofFiles files).classes = files.flatMap fun file => (ofFiles [file]).classes := by
  constructor
  · refine List.flatMap_congr fun file hfile => ?_
    obtain ⟨hshallow, hfits⟩ := h file hfile
    rw [classesOf_eq_surveyed, surveyed_eq file.path hshallow _ (List.prefix_refl _),
      lexicalSurvey, List.reverse_reverse]
    refine List.map_congr_left fun c hc => ?_
    obtain ⟨hmem, hclass⟩ := List.mem_filter.1 hc
    simp only [decide_eq_true_eq] at hclass
    rw [Style.scopeAt_eq hfits hmem hclass.1]
  · simp [ofFiles]

/-- Two blocks that import different classes under one name, the second one also a class that
it declares if a condition holds, and a file with a class on each side of its namespace. -/
def blockFiles : List ParsedFile :=
  [⟨⟨"tests/Blocks.php"⟩, ⟨.program, 1,
    [⟨.namespaceDecl "Feature", 1,
      [⟨.importClause "Tests\\TestCase" none, 2, []⟩,
        ⟨.classDecl "LoginTest" (some "TestCase") false, 3, []⟩]⟩,
      ⟨.namespaceDecl "Unit", 4,
        [⟨.importClause "PHPUnit\\Case" (some "TestCase"), 5, []⟩,
          ⟨.other "if_statement", 6,
            [⟨.classDecl "UserTest" (some "testcase") false, 7,
              [⟨.classDecl "" (some "TestCase") false, 8, []⟩]⟩]⟩]⟩]⟩⟩,
   ⟨⟨"tests/Plain.php"⟩, ⟨.program, 1,
    [⟨.classDecl "PlainTest" (some "TestCase") false, 1, []⟩,
      ⟨.namespaceDecl "Plain", 2, []⟩,
      ⟨.classDecl "LaterTest" (some "TestCase") false, 3, []⟩]⟩⟩]

theorem classes_ofFiles_blockFiles :
    let style : ParsedFile → Style := fun file =>
      if file.path.text = "tests/Blocks.php" then .braced else .unbraced
    (∀ file ∈ blockFiles, Shallow file.program ∧ (style file).Fits file.program) ∧
      (ofFiles blockFiles).classes.map (fun c => (c.qualified, c.parent.map (·.name))) =
        [("Feature\\LoginTest", some "Tests\\TestCase"),
          ("Unit\\UserTest", some "PHPUnit\\Case"), ("PlainTest", some "TestCase"),
          ("Plain\\LaterTest", some "Plain\\TestCase")] := by
  intro style
  have h : ∀ file ∈ blockFiles, Shallow file.program ∧ (style file).Fits file.program := by
    decide
  refine ⟨h, ?_⟩
  rw [(classes_ofFiles style blockFiles h).1]
  decide

end Catalog

end RouteAudit.Discovery
