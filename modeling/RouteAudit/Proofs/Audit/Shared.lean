/-
  Proofs/Audit/Shared.lean --- auditors that share a cache.

  WHAT THIS FILE IS FOR.  All auditors of a configuration look for tests through one cache,
  which earlier builds may have filled.  Nobody can tell: the auditors, or the error, are
  those of entries that are built one by one with a cache of their own.  Once a search has
  succeeded, the source is left alone.

  HOW IT GOES.  An invariant of the cache and the requests that a search keeps is kept by
  every rule, entry and list of entries, which have one result wherever it holds
  (`Agree`).  Three invariants are used: what is cached is what a search would find, what is
  cached is known and the source was asked no more, and the source was asked at most once.

  Main statement: `auditors_shared`.
-/
import RouteAudit.Audit.Entry
import RouteAudit.Proofs.Discovery.Recorded

set_option autoImplicit false

namespace RouteAudit

open RouteAudit.Discovery

/-! ## Builds -/

/-- A build with a source that records its requests. -/
abbrev Build := Building (StateM (List Request))

namespace Build

/-- The cache, and what the source was asked for so far. -/
structure State where
  cache : Cache (List TestMethod) := .empty
  requests : List Request := []

variable {α β : Type}

/-- The result of a build from a state, and the state behind it. -/
def runFrom (b : Build α) (s : State) : Except AuditError α × State :=
  let ((result, cache), requests) := (b.run.run s.cache).run s.requests
  (result, ⟨cache, requests⟩)

theorem runFrom_bind (b : Build α) (f : α → Build β) (s : State) :
    runFrom (b >>= f) s =
      match b.runFrom s with
      | (.ok a, s') => (f a).runFrom s'
      | (.error e, s') => (.error e, s') := by
  unfold runFrom
  rw [ExceptT.run_bind, StateT.run_bind, StateT.run_bind]
  cases hrun : (b.run.run s.cache).run s.requests with
  | mk first requests =>
    obtain ⟨result, cache⟩ := first
    cases result <;> rfl

/-- The build on a new cache that nobody else uses. -/
def alone (b : Build α) : Build α :=
  ExceptT.mk fun cache => do
    let (result, _) ← b.run.run .empty
    pure (result, cache)

theorem runFrom_alone (b : Build α) (s : State) :
    b.alone.runFrom s = ((b.runFrom ⟨.empty, s.requests⟩).1,
      ⟨s.cache, (b.runFrom ⟨.empty, s.requests⟩).2.requests⟩) := rfl

section Search

variable {directory : Path} {s : State}

theorem runFrom_getOrCollect_of_some {methods : List TestMethod}
    (h : s.cache.get? directory = some methods) (p : Recorded (List TestMethod)) :
    runFrom (Cache.getOrCollect directory p) s =
      (.ok methods, ⟨s.cache.reserve directory, s.requests⟩) := by
  unfold runFrom
  rw [Cache.run_getOrCollect_of_some p h]
  rfl

theorem runFrom_getOrCollect_of_none (h : s.cache.get? directory = none)
    (p : Recorded (List TestMethod)) :
    runFrom (Cache.getOrCollect directory p) s =
      match p.run.run s.requests with
      | (.ok methods, requests) =>
        (.ok methods, ⟨(s.cache.reserve directory).insert directory methods, requests⟩)
      | (.error e, requests) => (.error e, ⟨s.cache.reserve directory, requests⟩) := by
  unfold runFrom
  rw [Cache.run_getOrCollect_of_none p h, StateT.run_bind]
  cases hrun : p.run.run s.requests with
  | mk result requests => cases result <;> rfl

end Search

/-! ## Builds with one result -/

/-- From every state that satisfies an invariant, a build has the given result, and it keeps
the invariant. -/
def Yields (inv : State → Prop) (b : Build α) (result : Except AuditError α) : Prop :=
  ∀ s, inv s → (b.runFrom s).1 = result ∧ inv (b.runFrom s).2

/-- Two builds have one result wherever an invariant holds, and both keep it. -/
def Agree (inv : State → Prop) (b b' : Build α) : Prop :=
  ∃ result, Yields inv b result ∧ Yields inv b' result

/-- A build has one result wherever an invariant holds, and keeps it. -/
abbrev Settled (inv : State → Prop) (b : Build α) : Prop := Agree inv b b

variable {inv : State → Prop}

theorem yields_pure (a : α) : Yields inv (pure a) (.ok a) := fun _ hs => ⟨rfl, hs⟩

theorem yields_throw (e : AuditError) : Yields inv (throw e : Build α) (.error e) :=
  fun _ hs => ⟨rfl, hs⟩

theorem Yields.bind_error {b : Build α} {e : AuditError} (h : Yields inv b (.error e))
    (f : α → Build β) : Yields inv (b >>= f) (.error e) := by
  intro s hs
  obtain ⟨hresult, hinv⟩ := h s hs
  rw [runFrom_bind]
  cases hrun : b.runFrom s with
  | mk result s' =>
    rw [hrun] at hresult hinv
    cases hresult
    exact ⟨rfl, hinv⟩

theorem Yields.bind_ok {b : Build α} {a : α} (h : Yields inv b (.ok a)) {f : α → Build β}
    {result : Except AuditError β} (hf : Yields inv (f a) result) :
    Yields inv (b >>= f) result := by
  intro s hs
  obtain ⟨hresult, hinv⟩ := h s hs
  rw [runFrom_bind]
  cases hrun : b.runFrom s with
  | mk first s' =>
    rw [hrun] at hresult hinv
    cases hresult
    exact hf s' hinv

theorem Yields.settled {b : Build α} {result : Except AuditError α} (h : Yields inv b result) :
    Settled inv b := ⟨result, h, h⟩

namespace Agree

theorem pure (a : α) : Settled inv (pure a) := (yields_pure a).settled

theorem throw (e : AuditError) : Settled inv (throw e : Build α) := (yields_throw e).settled

theorem bind {b b' : Build α} {f f' : α → Build β} (h : Agree inv b b')
    (hf : ∀ a, Agree inv (f a) (f' a)) : Agree inv (b >>= f) (b' >>= f') := by
  obtain ⟨result, hb, hb'⟩ := h
  cases result with
  | error e => exact ⟨.error e, hb.bind_error f, hb'.bind_error f'⟩
  | ok a =>
    obtain ⟨next, hnext, hnext'⟩ := hf a
    exact ⟨next, hb.bind_ok hnext, hb'.bind_ok hnext'⟩

theorem mapM {f f' : α → Build β} {as : List α} (h : ∀ a ∈ as, Agree inv (f a) (f' a)) :
    Agree inv (as.mapM f) (as.mapM f') := by
  induction as with
  | nil => exact Agree.pure []
  | cons a as ih =>
    rw [List.mapM_cons, List.mapM_cons]
    refine (h a List.mem_cons_self).bind fun b => ?_
    have hrest := ih fun other hother => h other (List.mem_cons_of_mem a hother)
    exact hrest.bind fun bs => Agree.pure (b :: bs)

end Agree

end Build

/-! ## Entries -/

namespace Workshop

open Build

/-- The workshop with a source that gives the answers and records its requests. -/
def recorded (tests : TestSettings) (answers : Source Id) : Workshop (StateM (List Request)) where
  tests := tests
  source := answers.recorded

variable {w : Workshop (StateM (List Request))} {inv : Build.State → Prop}

theorem settled_liftExcept {α : Type} (x : Except AuditError α) :
    Settled inv (rule.liftExcept x) := by
  cases x with
  | ok a => exact Agree.pure a
  | error e => exact Agree.throw e

section Entries

variable (h : Settled inv (discover w.tests w.source))
include h

theorem settled_rule (kind : String) (arguments : List Yaml) :
    Settled inv (w.rule kind arguments) := by
  unfold rule
  split
  · exact (settled_liftExcept _).bind fun required => Agree.pure (Rule.middleware required)
  · exact settled_liftExcept _
  · exact settled_liftExcept _
  · exact settled_liftExcept _
  · exact h.bind fun methods => settled_liftExcept _
  · exact h.bind fun methods => settled_liftExcept _
  · exact Agree.throw (.unknownAuditor kind)

theorem settled_ofEntry (kind : String) (entry : AuditorEntry) :
    Settled inv (w.ofEntry kind entry) :=
  (settled_rule h kind entry.arguments).bind fun rule => Agree.pure (entry.auditor rule)

theorem settled_weighted (kind : String) (weight : Int) (e : AuditError) :
    Settled inv (w.weighted kind weight e) := by
  unfold weighted
  split
  · exact settled_ofEntry h kind { weight }
  · exact Agree.throw e

theorem settled_ofPair (key value : Yaml) : Settled inv (w.ofPair key value) := by
  unfold ofPair
  split
  · exact settled_weighted h _ _ _
  · exact settled_weighted h _ _ _
  · exact settled_ofEntry h _ {}
  · split
    · exact settled_ofEntry h _ _
    · exact Agree.throw _
  · exact Agree.throw _

theorem settled_ofItem (item : Yaml) : Settled inv (w.ofItem item) := by
  unfold ofItem
  split
  · exact settled_ofPair h _ _
  · exact settled_ofPair h _ _
  · exact Agree.throw _

end Entries

/-! ## Lists of entries -/

/-- The builds of the entries, in their order. -/
def builders {m : Type → Type} [Monad m] (w : Workshop m) :
    Yaml → Except AuditError (List (Building m Auditor))
  | .null => .ok []
  | .map entries => .ok (entries.map fun (key, value) => w.ofPair key value)
  | .list items => .ok (items.map w.ofItem)
  | other => .error (.invalidAuditor "auditors" other.text)

/-- The auditors of all entries, each of them built on a cache of its own. -/
def auditorsApart (w : Workshop (StateM (List Request))) (entries : Yaml) : Build (List Auditor) :=
  match w.builders entries with
  | .ok builds => builds.mapM Build.alone
  | .error e => throw e

theorem auditors_eq_builders (w : Workshop (StateM (List Request))) (entries : Yaml) :
    w.auditors entries =
      match w.builders entries with
      | .ok builds => builds.mapM id
      | .error e => throw e := by
  cases entries with
  | map entries =>
    have hmap : (entries.map fun (key, value) => w.ofPair key value).mapM id =
        entries.mapM fun (key, value) => w.ofPair key value := List.mapM_map
    exact hmap.symm
  | list items =>
    have hmap : (items.map w.ofItem).mapM id = items.mapM w.ofItem := List.mapM_map
    exact hmap.symm
  | _ => rfl

theorem settled_of_mem_builders (h : Settled inv (discover w.tests w.source)) {entries : Yaml}
    {builds : List (Build Auditor)} (hbuilds : w.builders entries = .ok builds) :
    ∀ b ∈ builds, Settled inv b := by
  intro b hb
  cases entries with
  | null =>
    cases hbuilds
    cases hb
  | map entries =>
    cases hbuilds
    obtain ⟨⟨key, value⟩, -, rfl⟩ := List.mem_map.mp hb
    exact settled_ofPair h key value
  | list items =>
    cases hbuilds
    obtain ⟨item, -, rfl⟩ := List.mem_map.mp hb
    exact settled_ofItem h item
  | _ => cases hbuilds

theorem settled_auditors (h : Settled inv (discover w.tests w.source)) (entries : Yaml) :
    Settled inv (w.auditors entries) := by
  rw [auditors_eq_builders]
  cases hbuilds : w.builders entries with
  | error e => exact Agree.throw e
  | ok builds => exact Agree.mapM (settled_of_mem_builders h hbuilds)

/-- What is left behind by builds, one after the other, each of which may have failed. -/
def after (w : Workshop (StateM (List Request))) (earlier : List Yaml) : Build.State :=
  earlier.foldl (fun s entries => (Build.runFrom (w.auditors entries) s).2) {}

theorem after_keeps (h : Settled inv (discover w.tests w.source)) (hinitial : inv {})
    (earlier : List Yaml) : inv (w.after earlier) := by
  refine List.foldlRecOn earlier _ hinitial fun s hs entries _ => ?_
  obtain ⟨_, hyields, -⟩ := settled_auditors h entries
  exact (hyields s hs).2

end Workshop

/-! ## Searches -/

namespace Build

section Search

variable {tests : TestSettings} {directory : Path} {methods : List TestMethod} {s : State}

theorem discover_eq {m : Type → Type} [Monad m] (source : Source m)
    (hdirectory : searchedDirectory tests = .ok directory) :
    discover tests source = Cache.getOrCollect directory (collect tests source directory) := by
  unfold discover
  rw [hdirectory]

/-- What was found before is the result, and the source is not asked. -/
theorem runFrom_discover_of_some (hdirectory : searchedDirectory tests = .ok directory)
    (h : s.cache.get? directory = some methods) (source : Source (StateM (List Request))) :
    let next := runFrom (discover tests source) s
    next.1 = .ok methods ∧ next.2.cache.get? directory = some methods ∧
      next.2.requests = s.requests := by
  rw [discover_eq source hdirectory, runFrom_getOrCollect_of_some h]
  refine ⟨rfl, ?_, rfl⟩
  rw [Cache.get?_reserve, h]

/-- What was not found before is searched for, and remembered if it is found. -/
theorem runFrom_discover_of_none (answers : Source Id)
    (hdirectory : searchedDirectory tests = .ok directory) (h : s.cache.get? directory = none) :
    let found := (collect tests answers directory).run
    let next := runFrom (discover tests answers.recorded) s
    next.1 = found ∧ next.2.cache.get? directory = Except.toOption found ∧
      ∀ methods, found = .ok methods →
        next.2.requests = s.requests ++ searchRequests answers tests directory := by
  intro found next
  obtain ⟨more, hrun, hmore⟩ := collect_mirrors answers tests directory s.requests
  have hnext : next = runFrom (Cache.getOrCollect directory _) s :=
    congrArg (fun b : Build _ => b.runFrom s) (discover_eq answers.recorded hdirectory)
  rw [runFrom_getOrCollect_of_none h, hrun] at hnext
  cases hfound : found with
  | error e =>
    have hcollect : (collect tests answers directory).run = .error e := hfound
    rw [hcollect] at hnext
    refine ⟨congrArg Prod.fst hnext, ?_, fun methods hmethods => ?_⟩
    · rw [hnext, Cache.get?_reserve, h]
      rfl
    · cases hmethods
  | ok methods =>
    have hcollect : (collect tests answers directory).run = .ok methods := hfound
    rw [hcollect] at hnext
    refine ⟨congrArg Prod.fst hnext, ?_, fun _ _ => ?_⟩
    · rw [hnext, Cache.get?_insert, if_pos directory.same_refl]
      rfl
    · rw [hnext, hmore methods hcollect]

end Search

/-! ## Invariants -/

section Invariants

variable (tests : TestSettings) (answers : Source Id)

/-- What is cached for the directory of the settings is what a search would find. -/
def IsSound (s : State) : Prop :=
  ∀ directory methods, searchedDirectory tests = .ok directory →
    s.cache.get? directory = some methods →
      (collect tests answers directory).run = .ok methods

/-- Some methods are cached for a directory, and these requests were made. -/
def IsKnown (directory : Path) (methods : List TestMethod) (requests : List Request)
    (s : State) : Prop :=
  s.cache.get? directory = some methods ∧ s.requests = requests

/-- Nothing was searched for, or one search found some methods. -/
def IsSearchedOnce (directory : Path) (methods : List TestMethod) (s : State) : Prop :=
  s.cache.get? directory = none ∧ s.requests = [] ∨
    IsKnown directory methods (searchRequests answers tests directory) s

theorem ok_of_toOption {ε α : Type} {x : Except ε α} {a : α} (h : x.toOption = some a) :
    x = .ok a := by
  cases x with
  | error e => cases h
  | ok b => cases h; rfl

theorem settled_discover_sound :
    Settled (IsSound tests answers) (discover tests answers.recorded) := by
  cases hdirectory : searchedDirectory tests with
  | error e =>
    have hthrow : discover tests answers.recorded = throw e := by
      unfold discover
      rw [hdirectory]
    rw [hthrow]
    exact Agree.throw e
  | ok directory =>
    have hyields : Yields (IsSound tests answers) (discover tests answers.recorded)
        (collect tests answers directory).run := by
      intro s hs
      cases hcached : s.cache.get? directory with
      | some methods =>
        obtain ⟨hresult, hkept, -⟩ :=
          runFrom_discover_of_some hdirectory hcached answers.recorded
        have hfound := hs directory methods hdirectory hcached
        refine ⟨hresult.trans hfound.symm, fun other methods' hother hmethods' => ?_⟩
        cases hdirectory.symm.trans hother
        cases hkept.symm.trans hmethods'
        exact hfound
      | none =>
        obtain ⟨hresult, hkept, -⟩ :=
          runFrom_discover_of_none answers hdirectory hcached
        refine ⟨hresult, fun other methods' hother hmethods' => ?_⟩
        cases hdirectory.symm.trans hother
        rw [hkept] at hmethods'
        exact ok_of_toOption hmethods'
    exact hyields.settled

variable {tests answers} {directory : Path} {methods : List TestMethod}
  (hdirectory : searchedDirectory tests = .ok directory)
include hdirectory

theorem yields_discover_known (requests : List Request) :
    Yields (IsKnown directory methods requests) (discover tests answers.recorded)
      (.ok methods) := by
  intro s hs
  obtain ⟨hresult, hkept, hrequests⟩ :=
    runFrom_discover_of_some hdirectory hs.1 answers.recorded
  exact ⟨hresult, hkept, hrequests.trans hs.2⟩

theorem yields_discover_once (hfound : (collect tests answers directory).run = .ok methods) :
    Yields (IsSearchedOnce tests answers directory methods) (discover tests answers.recorded)
      (.ok methods) := by
  intro s hs
  cases hs with
  | inl hnew =>
    obtain ⟨hresult, hkept, hrequests⟩ :=
      runFrom_discover_of_none answers hdirectory hnew.1
    have hasked := hrequests methods hfound
    rw [hnew.2, List.nil_append] at hasked
    rw [hfound] at hkept
    exact ⟨hresult.trans hfound, Or.inr ⟨hkept, hasked⟩⟩
  | inr hknown =>
    obtain ⟨hresult, hstill⟩ := yields_discover_known hdirectory _ s hknown
    exact ⟨hresult, Or.inr hstill⟩

end Invariants

/-! ## Shared and apart -/

variable (tests : TestSettings) (answers : Source Id)

/-- A build that does not depend on what is cached does not need the cache. -/
theorem agree_alone {α : Type} {b : Build α} (h : Settled (IsSound tests answers) b) :
    Agree (IsSound tests answers) b b.alone := by
  obtain ⟨result, hb, -⟩ := h
  refine ⟨result, hb, fun s hs => ?_⟩
  have hempty : IsSound tests answers ⟨.empty, s.requests⟩ := by
    intro directory methods _ hmethods
    cases hmethods
  rw [runFrom_alone]
  exact ⟨(hb _ hempty).1, hs⟩

theorem agree_auditorsApart (entries : Yaml) :
    let w := Workshop.recorded tests answers
    Agree (IsSound tests answers) (w.auditors entries) (w.auditorsApart entries) := by
  intro w
  rw [Workshop.auditors_eq_builders, Workshop.auditorsApart]
  cases hbuilders : w.builders entries with
  | error e => exact Agree.throw e
  | ok builds =>
    refine Agree.mapM fun b hb => agree_alone tests answers ?_
    exact Workshop.settled_of_mem_builders (settled_discover_sound tests answers) hbuilders b hb

/-- What is left behind by builds does not show in the auditors of the next one. -/
theorem auditors_eq_apart (earlier : List Yaml) (entries : Yaml) :
    let w := Workshop.recorded tests answers
    (runFrom (w.auditors entries) (w.after earlier)).1 =
      (runFrom (w.auditorsApart entries) {}).1 := by
  intro w
  have hempty : IsSound tests answers {} := by
    intro directory methods _ hmethods
    cases hmethods
  have hbefore : IsSound tests answers (w.after earlier) :=
    Workshop.after_keeps (settled_discover_sound tests answers) hempty earlier
  obtain ⟨result, hshared, hapart⟩ := agree_auditorsApart tests answers entries
  exact (hshared _ hbefore).1.trans (hapart {} hempty).1.symm

section Requests

variable {tests answers} {directory : Path} {methods : List TestMethod}
  (hdirectory : searchedDirectory tests = .ok directory)
include hdirectory

theorem searchedOnce_after (hfound : (collect tests answers directory).run = .ok methods)
    (builds : List Yaml) :
    IsSearchedOnce tests answers directory methods
      ((Workshop.recorded tests answers).after builds) :=
  Workshop.after_keeps (yields_discover_once hdirectory hfound).settled (Or.inl ⟨rfl, rfl⟩) builds

/-- Once the methods are known, a build makes no requests. -/
theorem requests_of_known {s : State} (h : s.cache.get? directory = some methods)
    (entries : Yaml) :
    let w := Workshop.recorded tests answers
    (runFrom (w.auditors entries) s).2.requests = s.requests := by
  intro w
  have hdiscover : Settled (IsKnown directory methods s.requests)
      (discover w.tests w.source) := (yields_discover_known hdirectory s.requests).settled
  obtain ⟨_, hyields, -⟩ := Workshop.settled_auditors hdiscover entries
  exact (hyields s ⟨h, rfl⟩).2.2

end Requests

/-- Auditors built on a cache that earlier builds, failed or not, have left behind are those
of entries built one by one, each on a new cache of its own: the first entry that fails has
the same error, and without one the same auditors come out in the same order.  If a search
of the directory succeeds, then all builds together make the requests of one search or none,
and a build makes none once any were made. -/
theorem auditors_shared (earlier : List Yaml) (entries : Yaml) :
    let w := Workshop.recorded tests answers
    let before := w.after earlier
    let shared := runFrom (w.auditors entries) before
    shared.1 = (runFrom (w.auditorsApart entries) {}).1 ∧
      ∀ directory methods, searchedDirectory tests = .ok directory →
        (collect tests answers directory).run = .ok methods →
          (shared.2.requests = [] ∨
            shared.2.requests = searchRequests answers tests directory) ∧
          (before.requests ≠ [] → shared.2.requests = before.requests) := by
  intro w before shared
  refine ⟨auditors_eq_apart tests answers earlier entries,
    fun directory methods hdirectory hfound => ⟨?_, fun hasked => ?_⟩⟩
  · have hall : shared.2 = w.after (earlier ++ [entries]) := by
      rw [Workshop.after, List.foldl_append]
      rfl
    rw [hall]
    cases searchedOnce_after hdirectory hfound (earlier ++ [entries]) with
    | inl hnew => exact Or.inl hnew.2
    | inr hknown => exact Or.inr hknown.2
  · cases searchedOnce_after hdirectory hfound earlier with
    | inl hnew => exact absurd hnew.2 hasked
    | inr hknown => exact requests_of_known hdirectory hknown.1 entries

/-- An auditor with an argument too many, one that does not exist and two more take one search
between them. -/
example :
    let w := Workshop.recorded {} (.ofList [])
    let crowded : Yaml := .map [(.string "phpunit", .map [(.string "arguments", .list [.null])])]
    let before := w.after [crowded, .list [.string "test_coverage", .string "nothing"]]
    (runFrom (w.auditors (.list [.string "phpunit", .string "policy"])) before).2.requests =
      [.files ⟨"tests"⟩ "php"] := by
  decide +kernel

end Build

end RouteAudit
