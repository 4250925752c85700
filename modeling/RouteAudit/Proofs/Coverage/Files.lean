/-
  Proofs/Coverage/Files.lean --- coverage by the files of a search.

  WHAT THIS FILE IS FOR.  Files of tests come and go, and a source may list them in any
  order.  The coverage of a route does not depend on the order, and a file more takes no
  coverage away, whether it parses or not, whichever classes it declares.

  Main statements: `collect_reorder` and `collect_insert`.
-/
import Mathlib.Algebra.Order.BigOperators.Group.List
import Mathlib.Algebra.Order.Group.Nat
import RouteAudit.Proofs.Coverage.Schedule
import RouteAudit.Proofs.Discovery.Files

set_option autoImplicit false

namespace RouteAudit.Coverage

open RouteAudit.Discovery

/-! ## Tables of more methods, or of the same in another order -/

namespace Table

variable (v : Vocabulary) (filters : List (TestMethod → Bool))

theorem occurrences_ofMethods_perm {methods other : List TestMethod} (h : methods.Perm other) :
    (ofMethods v filters methods).occurrences.1 = (ofMethods v filters other).occurrences.1 := by
  apply Tally.ext_count
  intro route
  have haccepted : (accepted v filters methods).Perm (accepted v filters other) :=
    (h.filter _).map _
  rw [count_ofMethods, count_ofMethods, (haccepted.map _).sum_eq]

theorem count_le_of_accepted_sublist {filters filters' : List (TestMethod → Bool)}
    {methods methods' : List TestMethod}
    (h : (accepted v filters methods).Sublist (accepted v filters' methods')) (route : String) :
    (ofMethods v filters methods).occurrences.1.count route ≤
      (ofMethods v filters' methods').occurrences.1.count route := by
  rw [count_ofMethods, count_ofMethods]
  exact (h.map _).sum_le_sum fun n _ => Nat.zero_le n

theorem count_ofMethods_mono {few many : List TestMethod} (h : few.Sublist many)
    (route : String) :
    (ofMethods v filters few).occurrences.1.count route ≤
      (ofMethods v filters many).occurrences.1.count route := by
  have haccepted : (accepted v filters few).Sublist (accepted v filters many) :=
    (h.filter _).map _
  exact count_le_of_accepted_sublist v haccepted route

end Table

/-! ## Files in another order -/

section Search

variable {m : Type → Type} [Monad m] [LawfulMonad m] {source source' : Source m}
  {parse : Parser} {s : TestSettings} {directory directory' : Path}

/-- Files in another order give the same blocks of methods in that order, one block for each
file and each as it was.  The table of occurrences and the coverage of every route stay the
same, whatever filters the methods have to pass, and whatever reads the texts. -/
theorem collect_reorder {files files' : List (Path × String)}
    (h : source.Offers parse s directory files) (h' : source'.Offers parse s directory' files')
    (hperm : files.Perm files') :
    collect s source directory = pure (files.flatMap (block parse s files)) ∧
    collect s source' directory' = pure (files'.flatMap (block parse s files)) ∧
    (∀ file, ∀ method ∈ block parse s files file, method.path = file.1) ∧
    ∀ filters : List (TestMethod → Bool),
      let table (found : List TestMethod) := Table.ofMethods s.vocabulary filters found
      (table (files'.flatMap (block parse s files))).occurrences.1 =
        (table (files.flatMap (block parse s files))).occurrences.1 ∧
      ∀ r : Route, (Rule.testCoverage (table (files'.flatMap (block parse s files)))).count r =
        (Rule.testCoverage (table (files.flatMap (block parse s files)))).count r := by
  have hmethods :
      (files'.flatMap (block parse s files)).Perm (files.flatMap (block parse s files)) :=
    hperm.symm.flatMap_right _
  refine ⟨?_, ?_, fun file method => path_of_mem_block, ?_⟩
  · rw [collect_eq h, methodsOf_eq_flatMap_block]
  · rw [collect_eq h', methodsOf_eq_flatMap_block, block_perm parse s hperm]
  · intro filters table
    have htable := Table.occurrences_ofMethods_perm s.vocabulary filters hmethods
    refine ⟨htable, fun r => ?_⟩
    simp only [Rule.testCoverage, table, htable]

/-- The source that offers some files. -/
def sampleSource (files : List (Path × String)) : Source Id :=
  .ofList (files.map fun file => (file.1, some file.2))

/-- Tests that extend a class of another file. -/
def userFile : Path × String :=
  (⟨"Users.php"⟩, "<?php class Users extends Base\x7bfunction index():void\x7b\x7d\x7d")

/-- Tests that other tests extend. -/
def baseFile : Path × String :=
  (⟨"Base.php"⟩, "<?php class Base extends Test\x7bfunction setup():void\x7b\x7d\x7d")

/-- The names of the tests that are found in some files. -/
def foundNames (files : List (Path × String)) : Option (List String) :=
  (collect { baseClass := "Test" } (sampleSource files) ⟨"tests"⟩).run.run.toOption.map
    (·.map (·.name))

theorem collect_reorder_sample :
    let s : TestSettings := { baseClass := "Test" }
    (sampleSource [userFile, baseFile]).Offers Php.parse s ⟨"tests"⟩ [userFile, baseFile] ∧
      (sampleSource [baseFile, userFile]).Offers Php.parse s ⟨"tests"⟩ [baseFile, userFile] ∧
      [userFile, baseFile].Perm [baseFile, userFile] ∧
      foundNames [userFile, baseFile] = some ["index", "setup"] ∧
      foundNames [baseFile, userFile] = some ["setup", "index"] := by
  intro s
  have hoffers : (sampleSource [userFile, baseFile]).Offers Php.parse s ⟨"tests"⟩
      [userFile, baseFile] := Source.offers_ofList (by decide) _ s _
  have hoffers' : (sampleSource [baseFile, userFile]).Offers Php.parse s ⟨"tests"⟩
      [baseFile, userFile] := Source.offers_ofList (by decide) _ s _
  have hperm : [userFile, baseFile].Perm [baseFile, userFile] := .swap _ _ _
  obtain ⟨hcollect, hcollect', -, -⟩ := collect_reorder hoffers hoffers' hperm
  refine ⟨hoffers, hoffers', hperm, ?_⟩
  rw [foundNames, foundNames, hcollect, hcollect']
  decide +kernel

/-! ## A file more -/

/-- A file more, wherever it is put between the others, takes nothing away: the methods that
were found before are found again, in their order, and no route is covered less often.  If the
file does not parse, the same methods are found as without it. -/
theorem collect_insert {before after : List (Path × String)} {file : Path × String}
    (h : source.Offers parse s directory (before ++ after))
    (h' : source'.Offers parse s directory' (before ++ file :: after)) :
    collect s source directory = pure (methodsOf parse s (before ++ after)) ∧
    collect s source' directory' = pure (methodsOf parse s (before ++ file :: after)) ∧
    (∀ fault, parse file.2 = .error fault →
      methodsOf parse s (before ++ file :: after) = methodsOf parse s (before ++ after)) ∧
    (methodsOf parse s (before ++ after)).Sublist (methodsOf parse s (before ++ file :: after)) ∧
    ∀ (filters : List (TestMethod → Bool)) (route : String),
      let table (found : List TestMethod) := Table.ofMethods s.vocabulary filters found
      (table (methodsOf parse s (before ++ after))).occurrences.1.count route ≤
        (table (methodsOf parse s (before ++ file :: after))).occurrences.1.count route := by
  have hfiles : (before ++ after).Sublist (before ++ file :: after) :=
    (List.sublist_cons_self file after).append_left before
  have hmethods := methodsOf_sublist parse s hfiles
  refine ⟨collect_eq h, collect_eq h', ?_, hmethods, ?_⟩
  · intro fault hfault
    exact methodsOf_of_unparsable s before after hfault
  · intro filters route table
    exact Table.count_ofMethods_mono s.vocabulary filters hmethods route

theorem collect_insert_sample :
    let s : TestSettings := { baseClass := "Test" }
    (sampleSource [userFile]).Offers Php.parse s ⟨"tests"⟩ ([userFile] ++ []) ∧
      (sampleSource [userFile, baseFile]).Offers Php.parse s ⟨"tests"⟩
        ([userFile] ++ baseFile :: []) ∧
      foundNames [userFile] = some [] ∧
      foundNames [userFile, baseFile] = some ["index", "setup"] := by
  intro s
  have hoffers : (sampleSource [userFile]).Offers Php.parse s ⟨"tests"⟩ ([userFile] ++ []) :=
    Source.offers_ofList (by decide) _ s _
  have hoffers' : (sampleSource [userFile, baseFile]).Offers Php.parse s ⟨"tests"⟩
      ([userFile] ++ baseFile :: []) := Source.offers_ofList (by decide) _ s _
  obtain ⟨hcollect, hcollect', -⟩ := collect_insert hoffers hoffers'
  refine ⟨hoffers, hoffers', ?_⟩
  rw [foundNames, foundNames, hcollect, hcollect']
  decide +kernel

end Search

end RouteAudit.Coverage
