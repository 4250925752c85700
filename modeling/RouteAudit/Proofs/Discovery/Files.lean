/-
  Proofs/Discovery/Files.lean --- what each file contributes to a search.

  WHAT THIS FILE IS FOR.  Which classes are test classes depends on all files of a search
  together, since a class may extend one of another file.  Apart from that every file
  contributes on its own: what is found is one block of methods after the other, in the
  order of the files.

  HOW IT GOES.  The classes that descend from the base depend only on which classes there
  are (`Catalog.extendsAny_family_mono`), so a block is the same in every order of the files,
  and more files make it grow and never shrink.

  Main statements: `collect_eq`, `methodsOf_eq_flatMap_block` and `methodsOf_sublist`.
-/
import Mathlib.Data.List.Basic
import Mathlib.Data.List.Flatten
import Mathlib.Data.List.Nodup
import RouteAudit.Discovery.Source
import RouteAudit.Proofs.Discovery.Family
import RouteAudit.Proofs.Syntax.Walk

set_option autoImplicit false

namespace RouteAudit.Discovery

open RouteAudit.Syntax

/-! ## Searches in readable files -/

/-- The trees of the files whose texts parse. -/
def parsed (parse : Parser) (files : List (Path × String)) : List ParsedFile :=
  files.filterMap fun file => parseFile? parse file.1 file.2

/-- The test methods of files with their texts. -/
def methodsOf (parse : Parser) (s : TestSettings) (files : List (Path × String)) :
    List TestMethod :=
  methodsIn s (parsed parse files)

section Search

variable {m : Type → Type} [Monad m] {parse : Parser}

/-- A source has these files below a directory, in this order, all of them can be read, and
their texts are parsed in this way. -/
structure Source.Offers (source : Source m) (parse : Parser) (s : TestSettings)
    (directory : Path) (files : List (Path × String)) : Prop where
  parse_eq : source.parse = parse
  files_eq : source.files directory s.extension = pure (files.map (·.1))
  read_eq : ∀ file ∈ files, source.read file.1 = pure file.2

/-- A list of files with different paths offers these files, whatever is asked for. -/
theorem Source.offers_ofList {files : List (Path × String)} (h : (files.map (·.1)).Nodup)
    (parse : Parser) (s : TestSettings) (directory : Path) :
    (Source.ofList (files.map fun file => (file.1, some file.2)) parse : Source m).Offers parse s
      directory files where
  parse_eq := rfl
  files_eq := by
    unfold Source.ofList
    rw [List.map_map]
    rfl
  read_eq := by
    intro file hfile
    have hfind : files.find? (fun other => other.1 == file.1) = some file := by
      cases hfound : files.find? (fun other => other.1 == file.1) with
      | none => exact absurd (beq_self_eq_true file.1) (List.find?_eq_none.1 hfound file hfile)
      | some other =>
        have hmatch := List.find?_some hfound
        have hpath : other.1 = file.1 := eq_of_beq hmatch
        have hother : other ∈ files := List.mem_of_find?_eq_some hfound
        rw [List.inj_on_of_nodup_map h hother hfile hpath]
    unfold Source.ofList
    dsimp only
    rw [List.find?_map, Function.comp_def, hfind]
    rfl

variable [LawfulMonad m]

theorem mapM_eq_pure {α β : Type} {f : α → ExceptT AuditError m β} {g : α → β} {xs : List α}
    (h : ∀ x ∈ xs, f x = pure (g x)) : xs.mapM f = pure (xs.map g) := by
  induction xs with
  | nil => rfl
  | cons x xs ih =>
    have hrest := ih fun y hy => h y (List.mem_cons_of_mem x hy)
    rw [List.mapM_cons, h x List.mem_cons_self, pure_bind, hrest, pure_bind, List.map_cons]

/-- A search in readable files finds the methods of these files. -/
theorem collect_eq {source : Source m} {s : TestSettings} {directory : Path}
    {files : List (Path × String)} (h : source.Offers parse s directory files) :
    collect s source directory = pure (methodsOf parse s files) := by
  have hread : ∀ file ∈ files,
      (readFile? source ∘ Prod.fst) file = pure (parseFile? parse file.1 file.2) := by
    intro file hfile
    rw [Function.comp_apply, readFile?, h.read_eq file hfile, h.parse_eq, pure_bind]
  unfold collect
  rw [h.files_eq, pure_bind, List.mapM_map, mapM_eq_pure hread, pure_bind, List.filterMap_map]
  rfl

end Search

/-! ## More classes and more files -/

namespace Catalog

variable {small large : Catalog} {base : String}

/-- What extends a family still extends it when there are more classes. -/
theorem extendsAny_family_mono (h : ∀ c ∈ small.classes, c ∈ large.classes) {c : ClassEntry}
    (hextends : c.extendsAny (small.family base) = true) :
    c.extendsAny (large.family base) = true := by
  rw [extendsAny_family_iff] at hextends ⊢
  exact hextends.mono (fun _ _ hmeans => hmeans) h

/-- More classes, in between the others, have more subclasses, in between the others. -/
theorem subclassesOf_sublist (h : small.classes.Sublist large.classes) :
    (small.subclassesOf base).Sublist (large.subclassesOf base) := by
  have hkept : ∀ c : ClassEntry, (!c.isAbstract && c.extendsAny (small.family base)) = true →
      (!c.isAbstract && c.extendsAny (large.family base)) = true := by
    intro c hc
    rw [Bool.and_eq_true] at hc ⊢
    exact ⟨hc.1, extendsAny_family_mono (fun d hd => h.subset hd) hc.2⟩
  exact (h.filter _).trans (List.monotone_filter_right large.classes hkept)

end Catalog

section Trees

variable {parse : Parser}

/-- More files, in between the others, have more test methods, in between the others. -/
theorem methodsOf_sublist (parse : Parser) (s : TestSettings) {few many : List (Path × String)}
    (h : few.Sublist many) : (methodsOf parse s few).Sublist (methodsOf parse s many) := by
  have hparsed : (parsed parse few).Sublist (parsed parse many) := h.filterMap _
  have hclasses : (Catalog.ofFiles (parsed parse few)).classes.Sublist
      (Catalog.ofFiles (parsed parse many)).classes := hparsed.flatMap classesOf
  exact (Catalog.subclassesOf_sublist hclasses).flatMap _

/-- A file that does not parse counts for nothing, wherever it stands. -/
theorem methodsOf_of_unparsable (s : TestSettings) (before after : List (Path × String))
    {file : Path × String} {fault : Php.Fault} (h : parse file.2 = .error fault) :
    methodsOf parse s (before ++ file :: after) = methodsOf parse s (before ++ after) := by
  have hnone : parseFile? parse file.1 file.2 = none := by rw [parseFile?, h]
  have hparsed : parsed parse (before ++ file :: after) = parsed parse (before ++ after) := by
    unfold parsed
    rw [List.filterMap_append, List.filterMap_append, List.filterMap_cons, hnone]
  rw [methodsOf, hparsed, methodsOf]

/-! ## Blocks -/

/-- The test methods of one file among the trees of a search. -/
def methodsOfFile (s : TestSettings) (files : List ParsedFile) (file : ParsedFile) :
    List TestMethod :=
  ((classesOf file).filter fun c =>
    !c.isAbstract && c.extendsAny ((Catalog.ofFiles files).family s.baseClass)).flatMap
      (methodsOfClass s.vocabulary)

theorem methodsIn_eq_flatMap (s : TestSettings) (files : List ParsedFile) :
    methodsIn s files = files.flatMap (methodsOfFile s files) := by
  unfold methodsIn Catalog.subclassesOf Catalog.ofFiles
  rw [List.filter_flatMap, List.flatMap_assoc]
  rfl

/-- The test methods of one file do not depend on the order of the files. -/
theorem methodsOfFile_perm (s : TestSettings) {files other : List ParsedFile}
    (h : files.Perm other) : methodsOfFile s files = methodsOfFile s other := by
  have hclasses : (Catalog.ofFiles files).classes.Perm (Catalog.ofFiles other).classes :=
    h.flatMap_right classesOf
  have hextends : ∀ c : ClassEntry,
      c.extendsAny ((Catalog.ofFiles files).family s.baseClass) =
        c.extendsAny ((Catalog.ofFiles other).family s.baseClass) := by
    intro c
    rw [Bool.eq_iff_iff]
    constructor
    · exact Catalog.extendsAny_family_mono fun d hd => hclasses.subset hd
    · exact Catalog.extendsAny_family_mono fun d hd => hclasses.symm.subset hd
  funext file
  simp only [methodsOfFile, hextends]

/-- The test methods of one file of a search, none if its text does not parse. -/
def block (parse : Parser) (s : TestSettings) (files : List (Path × String))
    (file : Path × String) : List TestMethod :=
  (parseFile? parse file.1 file.2).toList.flatMap (methodsOfFile s (parsed parse files))

/-- A search finds the blocks of the files, one after the other. -/
theorem methodsOf_eq_flatMap_block (parse : Parser) (s : TestSettings)
    (files : List (Path × String)) :
    methodsOf parse s files = files.flatMap (block parse s files) := by
  have hparsed : parsed parse files =
      files.flatMap fun file => (parseFile? parse file.1 file.2).toList :=
    List.filterMap_eq_flatMap_toList _ _
  calc methodsOf parse s files
      = (parsed parse files).flatMap (methodsOfFile s (parsed parse files)) :=
        methodsIn_eq_flatMap s _
    _ = (files.flatMap fun file => (parseFile? parse file.1 file.2).toList).flatMap
          (methodsOfFile s (parsed parse files)) := congrArg (List.flatMap _) hparsed
    _ = files.flatMap (block parse s files) := List.flatMap_assoc

theorem block_perm (parse : Parser) (s : TestSettings) {files other : List (Path × String)}
    (h : files.Perm other) : block parse s files = block parse s other := by
  have hparsed : (parsed parse files).Perm (parsed parse other) := h.filterMap _
  funext file
  rw [block, methodsOfFile_perm s hparsed, block]

/-! ## Where the methods of a block stand -/

/-- A survey enters classes of its own file only. -/
theorem path_of_mem_survey {path : Path} {s : Survey} {t : Node}
    (h : ∀ c ∈ s.classes, c.path = path) : ∀ c ∈ (survey path s t).1.classes, c.path = path := by
  intro c hc
  unfold survey at hc
  split at hc
  · exact h c hc
  · exact h c hc
  · rcases List.mem_cons.1 hc with rfl | hc
    · unfold Scope.entry
      split <;> rfl
    · exact h c hc
  · exact h c hc

theorem path_of_mem_classesOf {file : ParsedFile} {c : ClassEntry} (h : c ∈ classesOf file) :
    c.path = file.path := by
  have hstep : ∀ (s : Survey) (t : Node), (∀ d ∈ s.classes, d.path = file.path) →
      ∀ d ∈ (survey file.path s t).1.classes, d.path = file.path :=
    fun _ _ hs => path_of_mem_survey hs
  have hstart : ∀ d ∈ ({} : Survey).classes, d.path = file.path :=
    fun d hd => absurd hd List.not_mem_nil
  exact Node.walk_keeps hstep hstart file.program c (List.mem_reverse.1 h)

theorem path_of_mem_block {s : TestSettings} {files : List (Path × String)}
    {file : Path × String} {method : TestMethod} (h : method ∈ block parse s files file) :
    method.path = file.1 := by
  obtain ⟨tree, htree, hmethod⟩ := List.mem_flatMap.1 h
  obtain ⟨c, hc, hmethod⟩ := List.mem_flatMap.1 hmethod
  obtain ⟨node, -, rfl⟩ := List.mem_map.1 hmethod
  have hfile : tree.path = file.1 := by
    unfold parseFile? at htree
    split at htree
    · rw [List.mem_singleton.1 htree]
    · exact absurd htree List.not_mem_nil
  have hclass : c.path = tree.path := path_of_mem_classesOf (List.mem_filter.1 hc).1
  exact hclass.trans hfile

end Trees

end RouteAudit.Discovery
