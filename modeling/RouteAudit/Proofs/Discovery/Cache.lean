/-
  Proofs/Discovery/Cache.lean --- what a cache answers, by its history.

  WHAT THIS FILE IS FOR.  A cache is cleared and asked for directories in any order, and the
  searches that come with the questions succeed or fail as they like.  Whether a question
  makes a search and what it gets is said by the answers for the same path since the cache
  was last cleared.

  HOW IT GOES.  All that later answers see of a cache is what `get?` gives, so a step is
  described by what it does to `get?` (`get?_step`).  What `get?` gives and the answers so
  far determine each other (`Explains`); a step preserves this (`Explains.step`), and so does
  a run.

  Main statement: `answer_spec`.
-/
import RouteAudit.Discovery.Cache

set_option autoImplicit false

namespace RouteAudit.Discovery.Cache

variable {ε α : Type}

/-! ## Steps -/

/-- A step on a cache. -/
inductive Step (ε α : Type) where
  /-- forget everything -/
  | clear
  /-- ask for a directory, with the outcome that a search has if there is one -/
  | get (directory : Path) (outcome : Except ε α)

/-- What a question gets, and how many searches it makes. -/
structure Answer (ε α : Type) where
  result : Except ε α
  searches : Nat

/-- A search with an outcome, which counts that it was made. -/
def search (outcome : Except ε α) : ExceptT ε (StateM Nat) α :=
  ExceptT.mk fun searches => (outcome, searches + 1)

/-- Ask a cache for a directory: the answer, and the cache behind it. -/
def ask (c : Cache α) (directory : Path) (outcome : Except ε α) : Answer ε α × Cache α :=
  let ((result, after), searches) := ((getOrCollect directory (search outcome)).run.run c).run 0
  (⟨result, searches⟩, after)

/-- The cache behind a step. -/
def step (c : Cache α) : Step ε α → Cache α
  | .clear => c.clear
  | .get directory outcome => (c.ask directory outcome).2

/-- A new cache behind some steps. -/
def after (past : List (Step ε α)) : Cache α := past.foldl step empty

/-- What a directory gets from a new cache behind some steps. -/
def answer (past : List (Step ε α)) (directory : Path) (outcome : Except ε α) : Answer ε α :=
  ((after past).ask directory outcome).1

/-! ## One question -/

theorem get?_congr (c : Cache α) {directory other : Path} (h : directory.same other = true) :
    c.get? directory = c.get? other := by
  have hcomponents : directory.components = other.components := eq_of_beq h
  simp only [get?, cell?, hcomponents]

section Ask

variable {c : Cache α} {directory : Path}

theorem ask_of_some {found : α} (h : c.get? directory = some found) (outcome : Except ε α) :
    c.ask directory outcome = (⟨.ok found, 0⟩, c.reserve directory) := by
  unfold ask
  rw [run_getOrCollect_of_some (search outcome) h]
  rfl

theorem ask_of_none (h : c.get? directory = none) (outcome : Except ε α) :
    c.ask directory outcome = (⟨outcome, 1⟩,
      match outcome with
      | .ok found => (c.reserve directory).insert directory found
      | .error _ => c.reserve directory) := by
  unfold ask
  rw [run_getOrCollect_of_none (search outcome) h]
  cases outcome <;> rfl

/-- An answer depends on what was found below the directory and on nothing else of a cache. -/
theorem ask_congr {c' : Cache α} (h : c.get? directory = c'.get? directory)
    (outcome : Except ε α) : (c.ask directory outcome).1 = (c'.ask directory outcome).1 := by
  cases hfound : c'.get? directory with
  | none => rw [ask_of_none hfound, ask_of_none (h.trans hfound)]
  | some found => rw [ask_of_some hfound, ask_of_some (h.trans hfound)]

end Ask

/-! ## What steps leave behind -/

/-- What is known of a directory behind a step, from what was known before. -/
def remember (directory : Path) (kept : Option α) : Step ε α → Option α
  | .clear => none
  | .get other outcome => if directory.same other then kept.or outcome.toOption else kept

theorem get?_step (c : Cache α) (directory : Path) (s : Step ε α) :
    (c.step s).get? directory = remember directory (c.get? directory) s := by
  cases s with
  | clear => rfl
  | get other outcome =>
    have hsame : directory.same other = true → c.get? directory = c.get? other := c.get?_congr
    cases hfound : c.get? other with
    | some found =>
      rw [step, ask_of_some hfound, get?_reserve, remember]
      split
      next h => rw [hsame h, hfound, Option.some_or]
      next => rfl
    | none =>
      rw [step, ask_of_none hfound, remember]
      cases outcome with
      | error e =>
        rw [get?_reserve]
        split
        next => exact (Option.or_none).symm
        next => rfl
      | ok found =>
        rw [get?_insert, get?_reserve]
        split
        next h => rw [hsame h, hfound, Option.none_or, Except.toOption]
        next => rfl

theorem get?_foldl_step (steps : List (Step ε α)) (c : Cache α) (directory : Path) :
    (steps.foldl step c).get? directory =
      steps.foldl (remember directory) (c.get? directory) := by
  induction steps generalizing c with
  | nil => rfl
  | cons s steps ih => rw [List.foldl_cons, List.foldl_cons, ih, get?_step]

/-- A step that keeps what is known of a directory can be left out, as far as the directory
is concerned. -/
theorem answer_of_idle {directory : Path} {s : Step ε α}
    (h : ∀ kept, remember directory kept s = kept) (past later : List (Step ε α))
    (outcome : Except ε α) :
    answer (past ++ s :: later) directory outcome = answer (past ++ later) directory outcome := by
  apply ask_congr
  simp only [after, List.foldl_append, List.foldl_cons, get?_foldl_step, get?_step, h]

theorem remember_error (directory other : Path) (e : ε) (kept : Option α) :
    remember directory kept (.get other (.error e)) = kept := by
  rw [remember, Except.toOption, Option.or_none, ite_self]

theorem remember_of_not_same {directory other : Path} (h : ¬ directory.same other = true)
    (outcome : Except ε α) (kept : Option α) :
    remember directory kept (.get other outcome) = kept := if_neg h

/-! ## Histories -/

/-- What can be seen of a step. -/
inductive Event (ε α : Type) where
  | cleared
  | asked (directory : Path) (answer : Answer ε α)

/-- What can be seen of a step on a cache. -/
def event (c : Cache α) : Step ε α → Event ε α
  | .clear => .cleared
  | .get directory outcome => .asked directory (c.ask directory outcome).1

/-- What can be seen of some steps, in their order. -/
def history (c : Cache α) : List (Step ε α) → List (Event ε α)
  | [] => []
  | s :: steps => c.event s :: history (c.step s) steps

/-- The answers for a directory behind an event, from those before it. -/
def note (directory : Path) (answers : List (Answer ε α)) : Event ε α → List (Answer ε α)
  | .cleared => []
  | .asked other answer => if directory.same other then answers ++ [answer] else answers

/-- The answers for the path of a directory since the last event that cleared the cache. -/
def recent (directory : Path) (events : List (Event ε α)) : List (Answer ε α) :=
  events.foldl (note directory) []

namespace Answer

/-- A directory was asked for and its methods were found. -/
def succeeds (a : Answer ε α) : Bool := a.result.toOption.isSome

/-- The methods were found by a search for this very question. -/
def finds (a : Answer ε α) : Bool := a.searches == 1 && a.succeeds

end Answer

/-! ## What is known, and the answers so far -/

/-- Nothing is known of a directory as long as no answer for it succeeds; otherwise one
search succeeded, and what it found is known. -/
def Explains (kept : Option α) (answers : List (Answer ε α)) : Prop :=
  match kept with
  | none => ∀ a ∈ answers, a.succeeds = false
  | some found => answers.filter Answer.finds = [⟨.ok found, 1⟩]

/-- The next answer for a directory is explained as well. -/
theorem Explains.ask {c : Cache α} {directory : Path} {answers : List (Answer ε α)}
    (h : Explains (c.get? directory) answers) (outcome : Except ε α) :
    Explains ((c.get? directory).or outcome.toOption)
      (answers ++ [(c.ask directory outcome).1]) := by
  cases hfound : c.get? directory with
  | some found =>
    rw [hfound] at h
    have honce : answers.filter Answer.finds = [⟨.ok found, 1⟩] := h
    rw [ask_of_some hfound, Option.some_or, Explains, List.filter_append, honce]
    rfl
  | none =>
    rw [hfound] at h
    have hnever : ∀ a ∈ answers, a.succeeds = false := h
    rw [ask_of_none hfound, Option.none_or]
    cases outcome with
    | error e =>
      intro a ha
      cases List.mem_append.mp ha with
      | inl hearlier => exact hnever a hearlier
      | inr hlast => rw [List.mem_singleton.mp hlast]; rfl
    | ok found =>
      have hnone : answers.filter Answer.finds = [] := by
        apply List.filter_eq_nil_iff.mpr
        intro a ha
        rw [Answer.finds, hnever a ha, Bool.and_false]
        exact Bool.false_ne_true
      rw [Except.toOption, Explains, List.filter_append, hnone]
      rfl

theorem Explains.step {c : Cache α} {directory : Path} {answers : List (Answer ε α)}
    (h : Explains (c.get? directory) answers) (s : Step ε α) :
    Explains ((c.step s).get? directory) (note directory answers (c.event s)) := by
  rw [get?_step]
  cases s with
  | clear =>
    intro a ha
    cases ha
  | get other outcome =>
    rw [remember, event, note]
    by_cases hsame : directory.same other = true
    · have hother : c.get? directory = c.get? other := c.get?_congr hsame
      rw [if_pos hsame, if_pos hsame, hother]
      exact Explains.ask (hother ▸ h) outcome
    · rw [if_neg hsame, if_neg hsame]
      exact h

theorem explains_history (steps : List (Step ε α)) {c : Cache α} {directory : Path}
    {answers : List (Answer ε α)} (h : Explains (c.get? directory) answers) :
    Explains ((steps.foldl Cache.step c).get? directory)
      ((history c steps).foldl (note directory) answers) := by
  induction steps generalizing c answers with
  | nil => exact h
  | cons s steps ih => exact ih (h.step s)

theorem explains_recent (past : List (Step ε α)) (directory : Path) :
    Explains ((after past).get? directory) (recent directory (history empty past)) := by
  apply explains_history past
  intro a ha
  cases ha

/-- A question makes a search and gets its outcome, or it gets what an earlier one found. -/
theorem answer_cases (past : List (Step ε α)) (directory : Path) (outcome : Except ε α) :
    let earlier := recent directory (history empty past)
    answer past directory outcome = ⟨outcome, 1⟩ ∧ (∀ b ∈ earlier, b.succeeds = false) ∨
      ∃ found, answer past directory outcome = ⟨.ok found, 0⟩ ∧
        earlier.filter Answer.finds = [⟨.ok found, 1⟩] := by
  intro earlier
  have hexplains : Explains ((after past).get? directory) earlier :=
    explains_recent past directory
  cases hfound : (after past).get? directory with
  | none =>
    rw [hfound] at hexplains
    exact Or.inl ⟨congrArg Prod.fst (ask_of_none hfound outcome), hexplains⟩
  | some found =>
    rw [hfound] at hexplains
    exact Or.inr ⟨found, congrArg Prod.fst (ask_of_some hfound outcome), hexplains⟩

/-- Behind any steps, a question makes one search exactly if no answer for the same path has
succeeded since the cache was last cleared, and its result is then the outcome of the search.
Otherwise it makes none and gets what was found by the search that succeeded, of which there
is one.  A question whose search fails changes no later answer, and neither does one for
another path. -/
theorem answer_spec (past : List (Step ε α)) (directory : Path) (outcome : Except ε α) :
    let earlier := recent directory (history empty past)
    let a := answer past directory outcome
    (a.searches = 1 ↔ ∀ b ∈ earlier, b.succeeds = false) ∧
      (a.searches = 1 ∧ a.result = outcome ∨
        a.searches = 0 ∧ ∃ found, a.result = .ok found ∧
          earlier.filter Answer.finds = [⟨.ok found, 1⟩]) ∧
      (∀ later other e, answer (past ++ .get other (.error e) :: later) directory outcome =
        answer (past ++ later) directory outcome) ∧
      ∀ later other outcome', ¬ directory.same other = true →
        answer (past ++ .get other outcome' :: later) directory outcome =
          answer (past ++ later) directory outcome := by
  intro earlier a
  refine ⟨?_, ?_, fun later other e => ?_, fun later other outcome' hother => ?_⟩
  · obtain ⟨ha, hnever⟩ | ⟨found, ha, honce⟩ := answer_cases past directory outcome
    · exact iff_of_true (congrArg Answer.searches ha) hnever
    · have hnone : a.searches = 0 := congrArg Answer.searches ha
      have hmem : (⟨.ok found, 1⟩ : Answer ε α) ∈ earlier.filter Answer.finds :=
        honce ▸ List.mem_singleton_self _
      rw [hnone]
      refine iff_of_false Nat.zero_ne_one fun hnever => ?_
      cases hnever _ (List.mem_filter.mp hmem).1
  · obtain ⟨ha, hnever⟩ | ⟨found, ha, honce⟩ := answer_cases past directory outcome
    · exact Or.inl ⟨congrArg Answer.searches ha, congrArg Answer.result ha⟩
    · exact Or.inr ⟨congrArg Answer.searches ha, found, congrArg Answer.result ha, honce⟩
  · exact answer_of_idle (remember_error directory other e) past later outcome
  · exact answer_of_idle (remember_of_not_same hother outcome') past later outcome

/-- What a search found serves every spelling of its path.  Nothing is found for `./tests`,
which is another path, nor once the cache is cleared. -/
example :
    let past : List (Step String Nat) :=
      [.get ⟨"tests"⟩ (.error "no such directory"), .get ⟨"tests//."⟩ (.ok 1)]
    (answer past ⟨"tests/"⟩ (.ok 2)).searches = 0 ∧
      (answer past ⟨"./tests"⟩ (.ok 2)).searches = 1 ∧
      (answer (past ++ [.clear]) ⟨"tests/"⟩ (.ok 2)).searches = 1 := by
  decide

end RouteAudit.Discovery.Cache
