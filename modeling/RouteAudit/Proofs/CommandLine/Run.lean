/-
  Proofs/CommandLine/Run.lean --- a run that ends without trouble.

  WHAT THIS FILE IS FOR.  A run reads its configuration, its routes and what its auditors
  need from any disk, in any state of it, and whatever parses the texts of the tests.  If it
  reaches its report and can write it where that is asked for, it has no trouble, and it
  loaded findings that agree with each other; the status and the lines that are printed are
  theirs, and so is the report that a disk in memory then holds.

  HOW IT GOES.  A program that may fail succeeds only if all its steps do, so a run without
  trouble is taken apart step by step.  What it shows then hangs on its findings alone.

  Main statements: `run_agrees` and `run_writes_report`.
-/
import RouteAudit.CommandLine.Run
import RouteAudit.Files.Memory
import RouteAudit.Proofs.CommandLine.Findings
import RouteAudit.Proofs.Files.Memory

set_option autoImplicit false

namespace RouteAudit.CommandLine

open RouteAudit.Discovery RouteAudit.Files

variable {σ α β : Type}

/-! ## Steps of a run -/

/-- A sequence succeeds only if its first part does, and then its second part from there. -/
theorem exists_of_run_bind_ok {x : ExceptT Trouble (StateM σ) α}
    {f : α → ExceptT Trouble (StateM σ) β} {s s' : σ} {b : β}
    (h : (x >>= f).run.run s = (.ok b, s')) :
    ∃ a s₁, x.run.run s = (.ok a, s₁) ∧ (f a).run.run s₁ = (.ok b, s') := by
  rw [ExceptT.run_bind] at h
  obtain ⟨result, s₁, hx, h⟩ := exists_of_run_bind h
  cases result with
  | error trouble => cases h
  | ok a => exact ⟨a, s₁, hx, h⟩

variable {disk : Disk (StateM σ)} {parse : Parser} {a : Arguments} {s s' : σ}

/-- An outcome without trouble is that of what follows a success. -/
theorem exists_of_run_outcome {x : ExceptT Trouble (StateM σ) α}
    {next : Except Trouble α → StateM σ Outcome} {o : Outcome}
    (h : (x.run >>= next).run s = (o, s')) (htrouble : o.trouble = none)
    (hfailed : ∀ trouble, ∃ lines, next (.error trouble) = pure (.failed lines trouble)) :
    ∃ a s₁, x.run.run s = (.ok a, s₁) ∧ (next (.ok a)).run s₁ = (o, s') := by
  obtain ⟨result, s₁, hx, h⟩ := exists_of_run_bind h
  cases result with
  | error trouble =>
    obtain ⟨lines, hlines⟩ := hfailed trouble
    rw [hlines] at h
    cases h
    cases htrouble
  | ok a => exact ⟨a, s₁, hx, h⟩

/-- What is loaded are findings about a table, by auditors, under the configuration. -/
theorem findings_of_load {l : Loaded} (h : (load disk a parse).run.run s = (.ok l, s')) :
    ∃ table auditors, l.findings = .make l.config table auditors a := by
  unfold load at h
  obtain ⟨⟨config, root⟩, s₁, -, h⟩ := exists_of_run_bind_ok h
  obtain ⟨table, s₂, -, h⟩ := exists_of_run_bind_ok h
  by_cases hidle : isIdle table a = true
  · rw [if_pos hidle] at h
    obtain ⟨_, _, hthrow, -⟩ := exists_of_run_bind_ok h
    cases hthrow
  · rw [if_neg hidle] at h
    obtain ⟨auditors, s₃, -, h⟩ := exists_of_run_bind_ok h
    cases h
    exact ⟨table, auditors, rfl⟩

/-! ## Showing findings -/

/-- What a run ends with once it has findings.  The table of the findings is printed, or their
report if it is asked for as JSON, or nothing; and if a report is to be written, writing it
succeeds.  What a disk then holds is up to the disk; for one in memory see `Shows.read_report`. -/
structure Shows (disk : Disk (StateM σ)) (a : Arguments) (l : Loaded) (s s' : σ) (o : Outcome) :
    Prop where
  exitCode_eq : o.exitCode = l.findings.exitCode
  table_printed : a.json = false → a.quiet = false → l.findings.tableLines <+: o.lines
  report_printed : a.json = true → o.lines = [l.findings.report.text]
  written : ∀ file, a.exportTo = some file →
    ∃ path, (writeReport disk l file).run.run s = (.ok path, s')

/-- What is printed may go on behind the lines of the findings, unless it is a report. -/
theorem shows_of_lines {l : Loaded} {o : Outcome} (hexit : o.exitCode = l.findings.exitCode)
    (hlines : l.findings.lines a <+: o.lines)
    (hjson : a.json = true → o.lines = l.findings.lines a)
    (hwritten : ∀ file, a.exportTo = some file →
      ∃ path, (writeReport disk l file).run.run s = (.ok path, s')) :
    Shows disk a l s s' o where
  exitCode_eq := hexit
  table_printed := by
    intro hj hq
    have htable : l.findings.tableLines <+: l.findings.lines a := by
      simp only [Findings.lines, hj, hq, Bool.false_eq_true, if_false, List.append_assoc]
      exact List.prefix_append _ _
    exact htable.trans hlines
  report_printed := fun hj => by rw [hjson hj, Findings.lines, if_pos hj]
  written := hwritten

theorem shows_of_finish {l : Loaded} {o : Outcome} (h : (finish disk a l).run s = (o, s'))
    (htrouble : o.trouble = none) : Shows disk a l s s' o := by
  unfold finish at h
  cases hexport : a.exportTo with
  | none =>
    rw [hexport] at h
    cases h
    exact shows_of_lines rfl List.prefix_rfl (fun _ => rfl) fun file hfile => by
      rw [hexport] at hfile
      cases hfile
  | some file =>
    rw [hexport] at h
    obtain ⟨path, s₁, hwrite, h⟩ := exists_of_run_outcome h htrouble fun _ => ⟨_, rfl⟩
    dsimp only at h
    have hwritten : ∀ f, a.exportTo = some f →
        ∃ path, (writeReport disk l f).run.run s = (.ok path, s₁) := by
      rintro f hf
      obtain rfl : file = f := Option.some.inj (hexport.symm.trans hf)
      exact ⟨path, hwrite⟩
    by_cases hsilent : (a.json || a.quiet) = true
    · rw [if_pos hsilent] at h
      cases h
      exact shows_of_lines rfl List.prefix_rfl (fun _ => rfl) hwritten
    · rw [if_neg hsilent] at h
      cases h
      refine shows_of_lines rfl (List.prefix_append _ _) (fun hj => ?_) hwritten
      exact absurd (by rw [hj, Bool.true_or]) hsilent

/-! ## The report in memory -/

section Memory

variable {memory after : Memory} {l : Loaded} {path : Path}

/-- The file that a report is written to then holds its text. -/
theorem read_of_run_write {e : Export} {directory : Path} {name : String}
    (h : (e.write Memory.disk directory name).run.run memory = (.ok path, after)) :
    after.read path = .ok e.text := by
  unfold Export.write at h
  rw [ExceptT.run_mk] at h
  obtain ⟨made, middle, -, h⟩ := exists_of_run_bind h
  cases made with
  | error fault => cases h
  | ok _ =>
    obtain ⟨written, last, hwrite, h⟩ := exists_of_run_bind h
    cases written with
    | error fault => cases h
    | ok _ =>
      cases h
      exact Memory.read_of_run_write hwrite

theorem read_of_run_writeReport {file : Option Path}
    (h : (writeReport Memory.disk l file).run.run memory = (.ok path, after)) :
    after.read path = .ok l.findings.report.text := by
  unfold writeReport at h
  rw [ExceptT.run_mk] at h
  obtain ⟨written, middle, hwrite, h⟩ := exists_of_run_bind h
  cases written with
  | error e => cases h
  | ok _ =>
    cases h
    exact read_of_run_write hwrite

/-- The report that is written is that of the findings. -/
theorem Shows.read_report {o : Outcome} {file : Option Path}
    (h : Shows Memory.disk a l memory after o) (hexport : a.exportTo = some file) :
    ∃ path, (writeReport Memory.disk l file).run.run memory = (.ok path, after) ∧
      after.read path = .ok l.findings.report.text := by
  obtain ⟨path, hwrite⟩ := h.written file hexport
  exact ⟨path, hwrite, read_of_run_writeReport hwrite⟩

end Memory

/-! ## Whole runs -/

/-- A run without trouble that is not asked for help loads findings and shows them. -/
theorem exists_of_run {words : List String} {o : Outcome} (hwords : Arguments.parse words = .ok a)
    (hhelp : a.help = false) (h : (run disk words parse).run s = (o, s')) (htrouble : o.trouble = none) :
    ∃ l s₁, (load disk a parse).run.run s = (.ok l, s₁) ∧ Shows disk a l s₁ s' o := by
  unfold run at h
  rw [hwords] at h
  simp only [hhelp, Bool.false_eq_true, if_false] at h
  obtain ⟨l, s₁, hload, h⟩ := exists_of_run_outcome h htrouble fun _ => ⟨_, rfl⟩
  exact ⟨l, s₁, hload, shows_of_finish h htrouble⟩

/-- A run reaches its report, and writes it if that is asked for. -/
def Succeeds (disk : Disk (StateM σ)) (parse : Parser) (a : Arguments) (s : σ) : Prop :=
  ∃ l s₁, (load disk a parse).run.run s = (.ok l, s₁) ∧
    ∀ file, a.exportTo = some file →
      ∃ path s₂, (writeReport disk l file).run.run s₁ = (.ok path, s₂)

theorem trouble_finish {l : Loaded} (h : ∀ file, a.exportTo = some file →
    ∃ path s₂, (writeReport disk l file).run.run s = (.ok path, s₂)) :
    ((finish disk a l).run s).1.trouble = none := by
  unfold finish
  cases hexport : a.exportTo with
  | none => rfl
  | some file =>
    obtain ⟨path, s₂, hwrite⟩ := h file hexport
    dsimp only
    rw [StateT.run_bind, hwrite]
    by_cases hsilent : (a.json || a.quiet) = true
    · simp only [hsilent, if_true]
      rfl
    · simp only [hsilent]
      rfl

/-- There is trouble unless the report is reached and written. -/
theorem trouble_eq_none_iff {words : List String} (hwords : Arguments.parse words = .ok a)
    (hhelp : a.help = false) :
    ((run disk words parse).run s).1.trouble = none ↔ Succeeds disk parse a s := by
  constructor
  · intro htrouble
    obtain ⟨l, s₁, hload, hshows⟩ := exists_of_run hwords hhelp rfl htrouble
    refine ⟨l, s₁, hload, fun file hfile => ?_⟩
    obtain ⟨path, hwrite⟩ := hshows.written file hfile
    exact ⟨path, _, hwrite⟩
  · rintro ⟨l, s₁, hload, hwrite⟩
    have hrun : (run disk words parse).run s = (finish disk a l).run s₁ := by
      unfold run
      rw [hwords]
      simp only [hhelp, Bool.false_eq_true, if_false]
      rw [StateT.run_bind, hload]
      rfl
    rw [hrun]
    exact trouble_finish hwrite

/-- A run that reaches its report, and writes it if that is asked for, has no trouble.  It ends
with the status and shows the lines of its findings, which say the same of failed routes, of the
number of the routes and of their order wherever they say it.  The benchmark in force is the one
that is asked for, or else that of the configuration. -/
theorem run_agrees (disk : Disk (StateM σ)) (parse : Parser) (words : List String)
    (a : Arguments) (s : σ)
    (hwords : Arguments.parse words = .ok a) (hhelp : a.help = false)
    (hsucceeds : Succeeds disk parse a s) :
    ((run disk words parse).run s).1.trouble = none ∧
      ∃ l s₁, (load disk a parse).run.run s = (.ok l, s₁) ∧
        Shows disk a l s₁ ((run disk words parse).run s).2 ((run disk words parse).run s).1 ∧
        l.findings.benchmark = a.benchmark.getD l.config.benchmark ∧ l.findings.Agree := by
  have htrouble := (trouble_eq_none_iff hwords hhelp).2 hsucceeds
  obtain ⟨l, s₁, hload, hshows⟩ := exists_of_run hwords hhelp rfl htrouble
  obtain ⟨table, auditors, hfindings⟩ := findings_of_load hload
  refine ⟨htrouble, l, s₁, hload, hshows, ?_, ?_⟩
  · rw [hfindings]
    rfl
  · rw [hfindings]
    exact Findings.agree_make l.config table auditors a

/-- A run that succeeds and is to write a report leaves it in memory, as the text of the report of
its findings. -/
theorem run_writes_report {words : List String} {memory : Memory} {file : Option Path}
    (hwords : Arguments.parse words = .ok a) (hhelp : a.help = false)
    (hsucceeds : Succeeds Memory.disk parse a memory) (hexport : a.exportTo = some file) :
    ∃ l middle path, (load Memory.disk a parse).run.run memory = (.ok l, middle) ∧
      ((run Memory.disk words parse).run memory).2.read path = .ok l.findings.report.text := by
  have htrouble := (trouble_eq_none_iff hwords hhelp).2 hsucceeds
  obtain ⟨l, middle, hload, hshows⟩ := exists_of_run hwords hhelp rfl htrouble
  obtain ⟨path, -, hread⟩ := hshows.read_report hexport
  exact ⟨l, middle, path, hload, hread⟩

/-- Audit one of two routes, which fails, and export the report. -/
def sampleWords : List String :=
  ["--benchmark", "5", "--ignore=adm*", "--export", "out.json", "user", "admin"]

/-- What these words ask for. -/
def sampleArguments : Arguments where
  benchmark := some 5
  ignore := ["adm*"]
  exportTo := some (some ⟨"out.json"⟩)
  names := ["user", "admin"]

/-- A run in an empty directory. -/
theorem run_agrees_sample :
    let ended := (run Memory.disk sampleWords).run { home := ⟨"/app"⟩ }
    (Arguments.parse sampleWords = .ok sampleArguments ∧ sampleArguments.help = false ∧
        Succeeds Memory.disk Php.parse sampleArguments { home := ⟨"/app"⟩ }) ∧
      ended.1.trouble = none ∧
      ∃ l s₁, (load Memory.disk sampleArguments).run.run { home := ⟨"/app"⟩ } = (.ok l, s₁) ∧
        Shows Memory.disk sampleArguments l s₁ ended.2 ended.1 ∧
        l.findings.benchmark = sampleArguments.benchmark.getD l.config.benchmark ∧
        l.findings.Agree := by
  have hwords : Arguments.parse sampleWords = .ok sampleArguments := by rfl
  have htrouble : ((run Memory.disk sampleWords).run { home := ⟨"/app"⟩ }).1.trouble = none := by
    rfl
  have hsucceeds := (trouble_eq_none_iff hwords rfl).1 htrouble
  exact ⟨⟨hwords, rfl, hsucceeds⟩,
    run_agrees Memory.disk Php.parse sampleWords sampleArguments _ hwords rfl hsucceeds⟩

end RouteAudit.CommandLine
