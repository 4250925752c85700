/-
  Proofs/Discovery/Recorded.lean --- what a search asks.

  WHAT THIS FILE IS FOR.  A source that answers every request in the same way each time is a
  function of the request.  The same source with its requests recorded shows what a search
  asks for, and recording them changes no answer: a search that succeeds asks for the files
  of its directory and then for the text of each of them.

  HOW IT GOES.  A program that is recorded is compared to the one that is not (`Mirrors`),
  through sequences and lists step by step.

  Main statement: `collect_mirrors`.
-/
import RouteAudit.Discovery.Source

set_option autoImplicit false

namespace RouteAudit.Discovery

/-! ## Requests -/

/-- A request to a source. -/
inductive Request where
  | files (directory : Path) (extension : String)
  | read (path : Path)
  deriving DecidableEq, Repr

/-- A program whose requests are recorded, and which may fail. -/
abbrev Recorded (α : Type) := ExceptT AuditError (StateM (List Request)) α

variable {α β : Type}

/-- The answer to a request, which is recorded. -/
def recorded (request : Request) (answer : ExceptT AuditError Id α) : Recorded α :=
  ExceptT.mk fun requests => (answer.run, requests ++ [request])

/-- The source with the given answers that records its requests. -/
def Source.recorded (answers : Source Id) : Source (StateM (List Request)) where
  files directory extension :=
    Discovery.recorded (.files directory extension) (answers.files directory extension)
  read path := Discovery.recorded (.read path) (answers.read path)
  parse := answers.parse

/-! ## Programs with and without a record -/

theorem run_bind_of_ok {q : ExceptT AuditError Id α} {a : α} (h : q.run = .ok a)
    (g : α → ExceptT AuditError Id β) : (q >>= g).run = (g a).run := by
  rw [ExceptT.run_bind, h]
  rfl

theorem run_bind_of_error {q : ExceptT AuditError Id α} {e : AuditError} (h : q.run = .error e)
    (g : α → ExceptT AuditError Id β) : (q >>= g).run = .error e := by
  rw [ExceptT.run_bind, h]
  rfl

/-- A recorded program has the result of another one, and if it succeeds it adds the given
requests to those before it. -/
def Mirrors (p : Recorded α) (q : ExceptT AuditError Id α) (asked : List Request) : Prop :=
  ∀ before, ∃ more, p.run.run before = (q.run, before ++ more) ∧
    ∀ a, q.run = .ok a → more = asked

namespace Mirrors

theorem pure (a : α) : Mirrors (pure a) (pure a) [] := by
  intro before
  refine ⟨[], ?_, fun _ _ => rfl⟩
  rw [List.append_nil]
  rfl

/-- What comes after a success may depend on it; the requests that are named are those of the
one success there is. -/
theorem bind {p : Recorded α} {q : ExceptT AuditError Id α} {asked more : List Request}
    {f : α → Recorded β} {g : α → ExceptT AuditError Id β} (hp : Mirrors p q asked)
    (hf : ∀ a, q.run = .ok a → Mirrors (f a) (g a) more) :
    Mirrors (p >>= f) (q >>= g) (asked ++ more) := by
  intro before
  obtain ⟨first, hrun, hfirst⟩ := hp before
  cases hq : q.run with
  | error e =>
    rw [hq] at hrun
    refine ⟨first, ?_, fun b hb => ?_⟩
    · rw [run_bind_of_error hq, ExceptT.run_bind, StateT.run_bind, hrun]
      rfl
    · rw [run_bind_of_error hq] at hb
      cases hb
  | ok a =>
    rw [hq] at hrun
    obtain ⟨second, hnext, hsecond⟩ := hf a hq (before ++ first)
    refine ⟨first ++ second, ?_, fun b hb => ?_⟩
    · rw [run_bind_of_ok hq, ExceptT.run_bind, StateT.run_bind, hrun, ← List.append_assoc]
      exact hnext
    · rw [run_bind_of_ok hq] at hb
      rw [hfirst a hq, hsecond b hb]

theorem mapM {f : α → Recorded β} {g : α → ExceptT AuditError Id β} {request : α → Request}
    (h : ∀ a, Mirrors (f a) (g a) [request a]) (as : List α) :
    Mirrors (as.mapM f) (as.mapM g) (as.map request) := by
  induction as with
  | nil => exact Mirrors.pure []
  | cons a as ih =>
    rw [List.mapM_cons, List.mapM_cons]
    refine (h a).bind fun b _ => ?_
    rw [← List.append_nil (as.map request)]
    exact ih.bind fun bs _ => Mirrors.pure (b :: bs)

end Mirrors

theorem recorded_mirrors (request : Request) (answer : ExceptT AuditError Id α) :
    Mirrors (recorded request answer) answer [request] :=
  fun _ => ⟨[request], rfl, fun _ _ => rfl⟩

/-! ## Searches -/

variable (answers : Source Id) (s : TestSettings) (directory : Path)

theorem readFile?_mirrors (path : Path) :
    Mirrors (readFile? answers.recorded path) (readFile? answers path) [.read path] :=
  (recorded_mirrors (.read path) (answers.read path)).bind fun _ _ => Mirrors.pure _

/-- The files below a directory, none if the source fails. -/
def listed : List Path := (Id.run (answers.files directory s.extension).run).toOption.getD []

/-- The requests of a search that succeeds: the files, and the text of each of them. -/
def searchRequests : List Request :=
  .files directory s.extension :: (listed answers s directory).map .read

/-- A search has the result that the answers give it, and asks what it has to. -/
theorem collect_mirrors :
    Mirrors (collect s answers.recorded directory) (collect s answers directory)
      (searchRequests answers s directory) := by
  refine (recorded_mirrors (.files directory s.extension) _).bind fun paths hpaths => ?_
  have hlisted : listed answers s directory = paths :=
    congrArg (fun result : Except AuditError (List Path) => result.toOption.getD []) hpaths
  rw [hlisted, ← List.append_nil (paths.map Request.read)]
  exact (Mirrors.mapM (readFile?_mirrors answers) paths).bind fun _ _ => Mirrors.pure _

end RouteAudit.Discovery
