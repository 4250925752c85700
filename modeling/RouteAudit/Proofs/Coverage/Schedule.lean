/-
  Proofs/Coverage/Schedule.lean --- the order of merging does not matter.

  WHAT THIS FILE IS FOR.  The tallies of many test methods may be merged in parts and in any
  order, as several workers do.  A schedule is such a way: a binary tree with tallies at its
  leaves, and with empty ones wherever a worker starts from nothing.

  HOW IT GOES.  A schedule counts of every key what its leaves count together
  (`count_merged`), whatever its shape, and a tally is known by its counts
  (`Tally.ext_count`).  So all schedules of the same leaves give the same tally.

  Main statement: `occurrences_eq_merged`.
-/
import RouteAudit.Proofs.Coverage.Score

set_option autoImplicit false

namespace RouteAudit.Coverage

open RouteAudit.Discovery

/-! ## Schedules -/

/-- A way to merge tallies two at a time. -/
inductive Schedule (K : Type) [LT K] where
  /-- the start of a worker that has merged nothing yet -/
  | nothing
  | one (t : Tally K)
  | both (first second : Schedule K)

namespace Schedule

variable {K : Type} [LT K]

/-- The tallies that are merged, from left to right. -/
def tallies : Schedule K → List (Tally K)
  | .nothing => []
  | .one t => [t]
  | .both first second => first.tallies ++ second.tallies

variable [DecidableLT K] [DecidableEq K] [LE K] [Std.IsLinearOrder K] [Std.LawfulOrderLT K]

/-- The tally that comes out. -/
def merged : Schedule K → Tally K
  | .nothing => .empty
  | .one t => t
  | .both first second => first.merged.merge second.merged

theorem count_merged (s : Schedule K) (key : K) :
    s.merged.count key = (s.tallies.map (·.count key)).sum := by
  induction s with
  | nothing => rfl
  | one t => simp [merged, tallies]
  | both first second ihfirst ihsecond =>
    rw [merged, Tally.count_merge, ihfirst, ihsecond, tallies, List.map_append, List.sum_append]

theorem total_merged (s : Schedule K) : s.merged.total = (s.tallies.map Tally.total).sum := by
  induction s with
  | nothing => rfl
  | one t => simp [merged, tallies]
  | both first second ihfirst ihsecond =>
    rw [merged, Tally.total_merge, ihfirst, ihsecond, tallies, List.map_append, List.sum_append]

/-- Every schedule gives what merging its tallies one after another gives, in any order. -/
theorem merged_eq_foldl {s : Schedule K} {ts : List (Tally K)} (h : s.tallies.Perm ts) :
    s.merged = ts.foldl Tally.merge .empty := by
  apply Tally.ext_count
  intro key
  have hperm : (s.tallies.map (·.count key)).Perm (ts.map (·.count key)) := h.map _
  rw [count_merged, hperm.sum_eq, Tally.count_foldl_merge, Tally.count_empty, Nat.zero_add]

end Schedule

/-! ## The table of occurrences -/

/-- What each method that passes all filters covers. -/
def accepted (v : Vocabulary) (filters : List (TestMethod → Bool)) (methods : List TestMethod) :
    List (Tally String) :=
  (methods.filter fun method => filters.all (· method)).map (·.occurrences v)

namespace Table

/-- The table of methods behind a sequence of filters. -/
def ofMethods (v : Vocabulary) (filters : List (TestMethod → Bool)) (methods : List TestMethod) :
    Table :=
  filters.foldl filter { methods, vocabulary := v }

variable (v : Vocabulary) (filters : List (TestMethod → Bool)) (methods : List TestMethod)

theorem occurrences_ofMethods :
    (ofMethods v filters methods).occurrences.1 =
      (accepted v filters methods).foldl Tally.merge .empty := by
  rw [ofMethods, foldl_filter, List.nil_append]
  rfl

theorem count_ofMethods (route : String) :
    (ofMethods v filters methods).occurrences.1.count route =
      ((accepted v filters methods).map (·.count route)).sum := by
  rw [occurrences_ofMethods, Tally.count_foldl_merge, Tally.count_empty, Nat.zero_add]

end Table

/-- The table of occurrences is what any schedule makes of the methods that pass the filters:
all shapes and orders give the tally that is made one method after another, whose counts and
total are the sums of theirs.

Two tallies are the same as soon as they count every route alike, and empty as soon as they
count nothing: marking and merging store what the plain loops over the entries store, and
neither stores a zero. -/
theorem occurrences_eq_merged (v : Vocabulary) (methods : List TestMethod)
    (filters : List (TestMethod → Bool)) (schedule : Schedule String)
    (h : schedule.tallies.Perm (accepted v filters methods)) :
    (schedule.merged = (accepted v filters methods).foldl Tally.merge .empty ∧
      (Table.ofMethods v filters methods).occurrences.1 = schedule.merged ∧
      (∀ route, schedule.merged.count route =
        ((accepted v filters methods).map (·.count route)).sum) ∧
      schedule.merged.total = ((accepted v filters methods).map Tally.total).sum) ∧
    ∀ s t : Tally String,
      (∀ route, (t.mark route).entries = addEntry route 1 t.entries) ∧
      (s.merge t).entries =
        t.entries.foldl (fun sum entry => addEntry entry.1 entry.2 sum) s.entries ∧
      (∀ route n, (route, n) ∈ t.entries ↔ 0 < n ∧ t.count route = n) ∧
      (s = t ↔ ∀ route, s.count route = t.count route) ∧
      (t.isEmpty = true ↔ t.total = 0) := by
  have hfold := Schedule.merged_eq_foldl h
  refine ⟨⟨hfold, ?_, fun route => ?_, ?_⟩,
    fun s t => ⟨fun route => ?_, ?_, fun route n => ?_, ?_, ?_⟩⟩
  · rw [Table.occurrences_ofMethods, hfold]
  · rw [Schedule.count_merged]
    exact (h.map _).sum_eq
  · rw [Schedule.total_merged]
    exact (h.map _).sum_eq
  · exact t.entries_mark route
  · exact s.entries_merge t
  · exact Tally.mem_entries_iff
  · exact ⟨fun heq _ => heq ▸ rfl, Tally.ext_count⟩
  · exact t.isEmpty_iff_total_eq_zero

/-- Three methods that declare what they cover. -/
def sampleMethods : List TestMethod :=
  [("UserTest", ["user.show"]), ("AdminTest", ["user.show"]),
    ("UserTest", ["user.index", "user.show"])].map fun (className, markers) =>
      { className, name := "test_routes", path := ⟨"tests/UserTest.php"⟩, line := 7, node := none,
        markers }

/-- A schedule that merges two of them from the last to the first. -/
def sampleSchedule : Schedule String :=
  .both (.both .nothing (.one (.ofList ["user.index", "user.show"])))
    (.both (.one (.ofList ["user.show"])) .nothing)

theorem occurrences_eq_merged_sample :
    sampleSchedule.tallies.Perm (accepted {} [(·.className == "UserTest")] sampleMethods) ∧
      sampleSchedule.merged.entries = [("user.index", 1), ("user.show", 2)] ∧
      (Table.ofMethods {} [(·.className == "UserTest")] sampleMethods).occurrences.1 =
        sampleSchedule.merged := by
  have hperm : sampleSchedule.tallies.Perm
      (accepted {} [(·.className == "UserTest")] sampleMethods) := by decide
  obtain ⟨⟨_, htable, _, _⟩, _⟩ := occurrences_eq_merged {} sampleMethods
    [(·.className == "UserTest")] sampleSchedule hperm
  exact ⟨hperm, by decide, htable⟩

end RouteAudit.Coverage
