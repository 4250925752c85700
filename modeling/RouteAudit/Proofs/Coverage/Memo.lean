/-
  Proofs/Coverage/Memo.lean --- the kept table is never stale.

  WHAT THIS FILE IS FOR.  The table of occurrences is made when it is first asked for and
  kept for the questions after it, while filters may still come in between.  Whatever was
  asked and added in whatever order, an answer is the one of a new table with the filters
  that were added so far.

  HOW IT GOES.  A kept tally is the one that would be made now (`IsCurrent`).  This holds at
  the start and every call preserves it (`IsCurrent.call`), a filter because it drops what
  is kept.

  Main statement: `count_foldl_call`.
-/
import RouteAudit.Proofs.Coverage.Files

set_option autoImplicit false

namespace RouteAudit.Coverage.Table

open RouteAudit.Discovery

/-! ## Calls -/

/-- A call on a table. -/
inductive Call where
  /-- add a filter -/
  | filter (accept : TestMethod → Bool)
  /-- ask for all occurrences -/
  | occurrences
  /-- ask for the occurrences of a route -/
  | handle (r : Route)

/-- The filter that a call adds. -/
def Call.filter? : Call → Option (TestMethod → Bool)
  | .filter accept => some accept
  | _ => none

/-- The table behind a call. -/
def call (t : Table) : Call → Table
  | .filter accept => t.filter accept
  | .occurrences => t.occurrences.2
  | .handle r => (t.count r.identifier).2

/-! ## What is kept -/

/-- What is kept, if anything, is what would be made now. -/
def IsCurrent (t : Table) : Prop := ∀ made, t.made = some made → made = t.tally

theorem isCurrent_of_made_eq_none {t : Table} (h : t.made = none) : t.IsCurrent := by
  intro made hmade
  rw [h] at hmade
  cases hmade

/-- A current table answers what would be made now, whether it has kept it or not. -/
theorem IsCurrent.occurrences_eq_tally {t : Table} (h : t.IsCurrent) :
    t.occurrences.1 = t.tally := by
  unfold Table.occurrences
  cases hmade : t.made with
  | none => rfl
  | some made => exact h made hmade

theorem IsCurrent.occurrences {t : Table} (h : t.IsCurrent) : t.occurrences.2.IsCurrent := by
  unfold Table.occurrences
  cases hmade : t.made with
  | none =>
    intro made hkept
    exact (Option.some.inj hkept).symm
  | some made => exact h

theorem IsCurrent.call {t : Table} (h : t.IsCurrent) (c : Call) : (t.call c).IsCurrent := by
  cases c with
  | filter accept => exact isCurrent_of_made_eq_none rfl
  | occurrences => exact h.occurrences
  | handle r => exact h.occurrences

theorem isCurrent_foldl_call (calls : List Call) {t : Table} (h : t.IsCurrent) :
    (calls.foldl call t).IsCurrent := by
  induction calls generalizing t with
  | nil => exact h
  | cons c calls ih => exact ih (h.call c)

/-! ## What a table is made of -/

/-- The table without what is kept. -/
def fresh (t : Table) : Table := { t with made := none }

theorem fresh_occurrences (t : Table) : t.occurrences.2.fresh = t.fresh := by
  unfold Table.occurrences
  cases t.made <;> rfl

theorem fresh_foldl_call (calls : List Call) (t : Table) :
    (calls.foldl call t).fresh = (calls.filterMap Call.filter?).foldl filter t.fresh := by
  induction calls generalizing t with
  | nil => rfl
  | cons c calls ih =>
    rw [List.foldl_cons, ih]
    cases c with
    | filter accept =>
      have hadds : Call.filter? (.filter accept) = some accept := rfl
      rw [List.filterMap_cons_some hadds, List.foldl_cons]
      rfl
    | occurrences =>
      have hnone : Call.filter? .occurrences = none := rfl
      rw [List.filterMap_cons_none hnone, call, fresh_occurrences]
    | handle r =>
      have hnone : Call.filter? (.handle r) = none := rfl
      have hcall : t.call (.handle r) = t.occurrences.2 := rfl
      rw [List.filterMap_cons_none hnone, hcall, fresh_occurrences]

/-- A current table answers like the same one without what is kept. -/
theorem IsCurrent.occurrences_eq_fresh {t : Table} (h : t.IsCurrent) :
    t.occurrences.1 = t.fresh.occurrences.1 := h.occurrences_eq_tally

variable (v : Vocabulary) (methods : List TestMethod)

theorem occurrences_foldl_call (calls : List Call) :
    (calls.foldl call { methods, vocabulary := v }).occurrences.1 =
      (ofMethods v (calls.filterMap Call.filter?) methods).occurrences.1 := by
  have hcurrent : (calls.foldl call { methods, vocabulary := v }).IsCurrent :=
    isCurrent_foldl_call calls (isCurrent_of_made_eq_none rfl)
  rw [hcurrent.occurrences_eq_fresh, fresh_foldl_call]
  rfl

/-! ## One filter more -/

theorem count_ofMethods_filter_le (filters : List (TestMethod → Bool))
    (accept : TestMethod → Bool) (route : String) :
    (ofMethods v (filters ++ [accept]) methods).occurrences.1.count route ≤
      (ofMethods v filters methods).occurrences.1.count route := by
  have hfewer : ∀ method : TestMethod, (filters ++ [accept]).all (· method) = true →
      filters.all (· method) = true := by
    intro method hall
    rw [List.all_append, Bool.and_eq_true] at hall
    exact hall.1
  have haccepted : (accepted v (filters ++ [accept]) methods).Sublist
      (accepted v filters methods) := (List.monotone_filter_right methods hfewer).map _
  exact count_le_of_accepted_sublist v haccepted route

/-- Behind any calls, the occurrences and the count of a route are those of a new table over
the same methods with all filters that were added, whatever was asked in between and whether
it was asked before or after them.  A filter more never makes a count greater. -/
theorem count_foldl_call (calls : List Call) (r : Route) :
    let t := calls.foldl call { methods, vocabulary := v }
    let new := ofMethods v (calls.filterMap Call.filter?) methods
    t.occurrences.1 = new.occurrences.1 ∧
      (t.count r.identifier).1 = (new.count r.identifier).1 ∧
      (Rule.testCoverage t).count r = (Rule.testCoverage new).count r ∧
      ∀ accept, ((t.call (.filter accept)).count r.identifier).1 ≤ (t.count r.identifier).1 := by
  intro t new
  have htable : ∀ cs : List Call, (cs.foldl call { methods, vocabulary := v }).occurrences.1 =
      (ofMethods v (cs.filterMap Call.filter?) methods).occurrences.1 :=
    occurrences_foldl_call v methods
  refine ⟨htable calls, ?_, ?_, fun accept => ?_⟩
  · simp only [t, new, Table.count, htable]
  · simp only [t, new, Rule.testCoverage, htable]
  · have hmore : t.call (.filter accept) =
        (calls ++ [Call.filter accept]).foldl call { methods, vocabulary := v } := by
      rw [List.foldl_append]
      rfl
    have hfilters : (calls ++ [Call.filter accept]).filterMap Call.filter? =
        calls.filterMap Call.filter? ++ [accept] := by
      rw [List.filterMap_append]
      rfl
    simp only [hmore, t, Table.count, htable, hfilters]
    exact count_ofMethods_filter_le v methods _ accept r.identifier

/-- A filter that comes when the table was already made is counted with. -/
example :
    let method (name : String) (markers : List String) : TestMethod :=
      { className := "UserTest", name, path := ⟨"UserTest.php"⟩, line := 1, node := none, markers }
    let t : Table :=
      { methods := [method "index" ["user.index"], method "pages" ["user.index", "user.show"]]
        vocabulary := {} }
    let asked := t.call .occurrences
    (asked.count "user.index").1 = 2 ∧
      ((asked.call (.filter (·.name == "index"))).count "user.index").1 = 1 := by
  decide

end RouteAudit.Coverage.Table
