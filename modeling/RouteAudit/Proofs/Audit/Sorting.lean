/-
  Proofs/Audit/Sorting.lean --- sorted routes are determined by the routes they are made of.

  WHAT THIS FILE IS FOR.  Sorting orders routes by score, those with one score by name, and
  leaves routes that share both as they were.  This describes a single list.  So it does not
  matter how routes were sorted before, and neither whether they are filtered before or
  after.

  HOW IT GOES.  `IsSorting` says what a sorted list is.  It is true of what `sort` gives and
  of nothing else (`isSorting_iff`), and it goes through a second sorting
  (`IsSorting.trans`) and through a filter (`IsSorting.filter`).  Every law of sorting is an
  instance of these.

  Main statement: `sort_canonical`.
-/
import Mathlib.Data.List.Basic
import RouteAudit.Proofs.Audit.Collection

set_option autoImplicit false

namespace RouteAudit.Collection

/-! ## Sorted lists -/

/-- Whether a route has this score and this name. -/
def hasKeys (score : Int) (name : String) (r : AuditedRoute) : Bool :=
  r.score = score ∧ r.displayName = name

theorem hasKeys_iff {score : Int} {name : String} {r : AuditedRoute} :
    hasKeys score name r = true ↔ r.score = score ∧ r.displayName = name :=
  decide_eq_true_iff

/-- A list holds the given routes in the order of their scores, those with one score in the
ascending order of their names, and those that share both in the given order. -/
structure IsSorting (order : Order) (routes sorted : List AuditedRoute) : Prop where
  perm : sorted.Perm routes
  ordered : sorted.Pairwise fun a b =>
    order.allows a.score b.score = true ∧ (a.score = b.score → a.displayName ≤ b.displayName)
  stable : ∀ score name, sorted.filter (hasKeys score name) = routes.filter (hasKeys score name)

variable {order : Order}

theorem mayPrecede_of_hasKeys {score : Int} {name : String} {a b : AuditedRoute}
    (ha : hasKeys score name a = true) (hb : hasKeys score name b = true) :
    mayPrecede order a b = true := by
  obtain ⟨hscoreA, hnameA⟩ := hasKeys_iff.1 ha
  obtain ⟨hscoreB, hnameB⟩ := hasKeys_iff.1 hb
  rw [mayPrecede_iff, hscoreA, hscoreB, hnameA, hnameB]
  exact ⟨order.allows_refl score, fun _ => String.le_refl name⟩

/-- Two routes that may stand before each other share their keys. -/
theorem hasKeys_of_mayPrecede {a b : AuditedRoute} (hab : mayPrecede order a b = true)
    (hba : mayPrecede order b a = true) : hasKeys a.score a.displayName b = true := by
  obtain ⟨hscore, hname⟩ := mayPrecede_iff.1 hab
  obtain ⟨hscore', hname'⟩ := mayPrecede_iff.1 hba
  have hsame : b.score = a.score := Order.eq_of_allows hscore' hscore
  exact hasKeys_iff.2 ⟨hsame, String.le_antisymm (hname' hsame) (hname hsame.symm)⟩

/-- Routes that share their keys stay in order, since a list of them alone is sorted. -/
theorem filter_hasKeys_sort (order : Order) (routes : List AuditedRoute) (score : Int)
    (name : String) :
    (sort order routes).filter (hasKeys score name) = routes.filter (hasKeys score name) := by
  have htied : (routes.filter (hasKeys score name)).Pairwise
      fun a b => mayPrecede order a b = true :=
    List.pairwise_of_forall_mem_list fun a ha b hb =>
      mayPrecede_of_hasKeys (List.mem_filter.1 ha).2 (List.mem_filter.1 hb).2
  have hsub : (routes.filter (hasKeys score name)).Sublist (sort order routes) :=
    List.sublist_mergeSort (mayPrecede_trans order) (mayPrecede_total order) htied
      List.filter_sublist
  have hfilter := hsub.filter (hasKeys score name)
  rw [List.filter_filter] at hfilter
  simp only [Bool.and_self] at hfilter
  have hlength := ((sort_perm order routes).filter (hasKeys score name)).length_eq
  exact (hfilter.eq_of_length hlength.symm).symm

theorem isSorting_sort (order : Order) (routes : List AuditedRoute) :
    IsSorting order routes (sort order routes) where
  perm := sort_perm order routes
  ordered := pairwise_sort order routes
  stable := filter_hasKeys_sort order routes

/-! ## There is one sorted list -/

/-- Ordered lists of the same routes begin with routes that share their keys: each of the two
may stand before the other. -/
theorem hasKeys_head {a b : AuditedRoute} {first second : List AuditedRoute}
    (hfirst : (a :: first).Pairwise fun a b => mayPrecede order a b = true)
    (hsecond : (b :: second).Pairwise fun a b => mayPrecede order a b = true)
    (hmem : ∀ r, r ∈ a :: first ↔ r ∈ b :: second) :
    hasKeys a.score a.displayName b = true := by
  have hself : hasKeys a.score a.displayName a = true := hasKeys_iff.2 ⟨rfl, rfl⟩
  rcases List.mem_cons.1 ((hmem b).2 List.mem_cons_self) with rfl | hb
  · exact hself
  · rcases List.mem_cons.1 ((hmem a).1 List.mem_cons_self) with rfl | ha
    · exact hself
    · exact hasKeys_of_mayPrecede (List.rel_of_pairwise_cons hfirst hb)
        (List.rel_of_pairwise_cons hsecond ha)

section Unique

variable {first second : List AuditedRoute}
  (hsame : ∀ score name, first.filter (hasKeys score name) = second.filter (hasKeys score name))

include hsame

theorem mem_iff_of_filter_hasKeys_eq (r : AuditedRoute) : r ∈ first ↔ r ∈ second := by
  have hself : hasKeys r.score r.displayName r = true := hasKeys_iff.2 ⟨rfl, rfl⟩
  have hr := congrArg (r ∈ ·) (hsame r.score r.displayName)
  simpa only [List.mem_filter, hself, and_true, eq_iff_iff] using hr

/-- Two ordered lists with the same routes of every score and name, in the same order, are
equal.  Their heads share their keys, so each is the first of its list with these keys. -/
theorem eq_of_filter_hasKeys_eq (hfirst : first.Pairwise fun a b => mayPrecede order a b = true)
    (hsecond : second.Pairwise fun a b => mayPrecede order a b = true) : first = second := by
  have hmem := mem_iff_of_filter_hasKeys_eq hsame
  induction first generalizing second with
  | nil =>
    have hempty : ∀ r, r ∉ second := fun r hr => List.not_mem_nil ((hmem r).2 hr)
    exact (List.eq_nil_iff_forall_not_mem.2 hempty).symm
  | cons a first ih =>
    obtain ⟨b, second, rfl⟩ :=
      List.exists_cons_of_ne_nil (List.ne_nil_of_mem ((hmem a).1 List.mem_cons_self))
    have hheads := hsame a.score a.displayName
    rw [List.filter_cons_of_pos (hasKeys_iff.2 ⟨rfl, rfl⟩),
      List.filter_cons_of_pos (hasKeys_head hfirst hsecond hmem)] at hheads
    obtain rfl : a = b := (List.cons.inj hheads).1
    have htails : ∀ score name,
        first.filter (hasKeys score name) = second.filter (hasKeys score name) := by
      intro score name
      have hboth : ([a] ++ first).filter (hasKeys score name) =
        ([a] ++ second).filter (hasKeys score name) := hsame score name
      rw [List.filter_append, List.filter_append] at hboth
      exact List.append_cancel_left hboth
    rw [ih htails hfirst.of_cons hsecond.of_cons (mem_iff_of_filter_hasKeys_eq htails)]

end Unique

/-- What `sort` gives is the one sorted list. -/
theorem isSorting_iff {routes sorted : List AuditedRoute} :
    IsSorting order routes sorted ↔ sorted = sort order routes := by
  constructor
  · intro h
    have hsort := isSorting_sort order routes
    exact eq_of_filter_hasKeys_eq (fun score name => (h.stable score name).trans
      (hsort.stable score name).symm) (h.ordered.imp mayPrecede_iff.2)
      (hsort.ordered.imp mayPrecede_iff.2)
  · rintro rfl
    exact isSorting_sort order routes

/-! ## Sorting again, and filtering -/

theorem IsSorting.trans {order' : Order} {routes middle sorted : List AuditedRoute}
    (h : IsSorting order' middle sorted) (hmiddle : IsSorting order routes middle) :
    IsSorting order' routes sorted where
  perm := h.perm.trans hmiddle.perm
  ordered := h.ordered
  stable score name := (h.stable score name).trans (hmiddle.stable score name)

theorem IsSorting.filter {routes sorted : List AuditedRoute} (h : IsSorting order routes sorted)
    (keep : AuditedRoute → Bool) : IsSorting order (routes.filter keep) (sorted.filter keep) where
  perm := h.perm.filter keep
  ordered := h.ordered.filter keep
  stable score name := by
    rw [List.filter_comm, h.stable, List.filter_comm]

theorem sort_sort (order order' : Order) (routes : List AuditedRoute) :
    sort order' (sort order routes) = sort order' routes :=
  isSorting_iff.1 ((isSorting_sort order' _).trans (isSorting_sort order routes))

theorem filter_sort (order : Order) (routes : List AuditedRoute) (keep : AuditedRoute → Bool) :
    (sort order routes).filter keep = sort order (routes.filter keep) :=
  isSorting_iff.1 ((isSorting_sort order routes).filter keep)

theorem withStatus_sort (order : Order) (status : Status) (routes : List AuditedRoute) :
    withStatus status (sort order routes) = sort order (withStatus status routes) :=
  filter_sort order routes _

/-- What a filter of a field looks for: the status by its word, or a name that occurs in the
given text. -/
def Matches (field value : String) (r : AuditedRoute) : Prop :=
  (field = "status" ∧ r.status.text = value) ∨
    (field = "name" ∧ r.displayName.toList <:+: value.toList)

instance (field value : String) : DecidablePred (Matches field value) :=
  fun _ => inferInstanceAs (Decidable (_ ∨ _))

/-- A filter of either kind keeps the routes that it looks for. -/
theorem filterBy_eq_ok {field : String} (h : field = "status" ∨ field = "name") (value : String)
    (routes : List AuditedRoute) :
    filterBy field value routes = .ok (routes.filter fun r => Matches field value r) := by
  rcases h with rfl | rfl
  · refine congrArg Except.ok (List.filter_congr fun r _ => ?_)
    rw [Bool.eq_iff_iff, beq_iff_eq, decide_eq_true_iff]
    simp [Matches]
  · refine congrArg Except.ok (List.filter_congr fun r _ => ?_)
    rw [Bool.eq_iff_iff, Text.occursIn_iff, decide_eq_true_iff]
    simp [Matches]

/-- A filter of either kind gives the same before and after sorting. -/
theorem filterBy_sort (order : Order) {field : String} (h : field = "status" ∨ field = "name")
    (value : String) (routes : List AuditedRoute) :
    filterBy field value (sort order routes) =
      .ok (sort order (routes.filter fun r => Matches field value r)) := by
  rw [filterBy_eq_ok h, filter_sort]

/-! ## The two statuses -/

theorem withStatus_sublist (status : Status) (routes : List AuditedRoute) :
    (withStatus status routes).Sublist routes := List.filter_sublist

theorem mem_withStatus {status : Status} {routes : List AuditedRoute} {r : AuditedRoute} :
    r ∈ withStatus status routes ↔ r ∈ routes ∧ r.status = status := by
  rw [withStatus, List.mem_filter, decide_eq_true_iff]

/-- Every route has one of the statuses. -/
theorem withStatus_append_perm (routes : List AuditedRoute) :
    (withStatus .failed routes ++ withStatus .ok routes).Perm routes := by
  have hok : withStatus .ok routes = routes.filter fun r => !decide (r.status = .failed) := by
    refine List.filter_congr fun r _ => ?_
    cases r.status <;> rfl
  rw [hok]
  exact List.filter_append_perm (fun r : AuditedRoute => decide (r.status = .failed)) routes

/-! ## The laws together -/

/-- There is one way to sort routes by score, name and entry, and it is that of `sort`.  It
does not matter how the routes were sorted before, and neither whether a filter comes before
or after: it keeps the routes that match.  The two statuses divide the routes among them, each
in the given order. -/
theorem sort_canonical (order : Order) (routes : List AuditedRoute) :
    (∀ sorted, IsSorting order routes sorted ↔ sorted = sort order routes) ∧
      (∀ order', sort order' (sort order routes) = sort order' routes) ∧
      (∀ status, withStatus status (sort order routes) = sort order (withStatus status routes)) ∧
      (∀ field value, field = "status" ∨ field = "name" →
        let kept := routes.filter fun r => Matches field value r
        filterBy field value routes = .ok kept ∧
          filterBy field value (sort order routes) = .ok (sort order kept)) ∧
      (∀ status, (withStatus status routes).Sublist routes ∧
        ∀ r ∈ withStatus status routes, r.status = status) ∧
      (withStatus .failed routes ++ withStatus .ok routes).Perm routes := by
  refine ⟨?_, ?_, ?_, ?_, ?_, withStatus_append_perm routes⟩
  · intro sorted
    exact isSorting_iff
  · intro order'
    exact sort_sort order order' routes
  · intro status
    exact withStatus_sort order status routes
  · intro field value hfield
    exact ⟨filterBy_eq_ok hfield value routes, filterBy_sort order hfield value routes⟩
  · intro status
    refine ⟨withStatus_sublist status routes, ?_⟩
    intro r hr
    exact (mem_withStatus.1 hr).2

/-- Two routes that share score and name but not the benchmark, entered around a third. -/
theorem sort_canonical_sample :
    let early : AuditedRoute := { route := .stringable "a", benchmark := 1, score := 2 }
    let late : AuditedRoute := { route := .stringable "a", benchmark := 3, score := 2 }
    let high : AuditedRoute := { route := .stringable "b", benchmark := 1, score := 5 }
    early ≠ late ∧ sort .descending [early, high, late] = [high, early, late] ∧
      sort .ascending (sort .descending [early, high, late]) =
        sort .ascending [early, high, late] ∧
      (let kept := [early, high, late].filter fun r => Matches "name" "a, c" r
       filterBy "name" "a, c" [early, high, late] = .ok kept ∧
         filterBy "name" "a, c" (sort .descending [early, high, late]) =
           .ok (sort .descending kept)) ∧
      late ∈ withStatus .failed [early, high, late] ∧ late.status = .failed := by
  intro early late high
  obtain ⟨honly, hagain, -, hfilter, hstatus, -⟩ := sort_canonical .descending [early, high, late]
  have hlate : late ∈ withStatus .failed [early, high, late] := by decide
  have hsorting : IsSorting .descending [early, high, late] [high, early, late] := by
    refine ⟨List.Perm.swap early high [late], by decide, fun score name => ?_⟩
    -- No score is that of both routes that change places.
    have hapart : hasKeys score name high = false ∨ hasKeys score name early = false := by
      rcases eq_or_ne score 5 with rfl | hscore
      · exact .inr rfl
      · exact .inl (decide_eq_false fun h => hscore h.1.symm)
    rcases hapart with hnot | hnot <;>
      simp only [List.filter_cons, hnot, Bool.false_eq_true, if_false]
  exact ⟨by decide, ((honly _).1 hsorting).symm, hagain .ascending,
    hfilter "name" "a, c" (.inr rfl), hlate, (hstatus .failed).2 late hlate⟩

end RouteAudit.Collection
