/-
  Proofs/Audit/Calls.lean --- what a sequence of calls leaves behind.

  WHAT THIS FILE IS FOR.  Engines and auditors are set up by calls, one after another.  Most
  calls set something that an earlier call may have set; a condition comes on top of those
  that are there.  Here the calls are data, and for any sequence of them it is said what
  stands at the end: the value of the last call that sets it, or the first value if there is
  none.

  Main statements: `foldl_call` for engines and `auditor_eq` for auditors.
-/
import RouteAudit.Audit.Engine

set_option autoImplicit false

namespace RouteAudit

/-! ## The last value given -/

section LastGiven

variable {γ β : Type} (given : γ → Option β)

/-- The value of the last call that gives one; without any, the first value. -/
def lastGiven (calls : List γ) (first : β) : β := (calls.filterMap given).getLast?.getD first

@[simp] theorem lastGiven_nil (first : β) : lastGiven given [] first = first := rfl

@[simp] theorem lastGiven_cons (c : γ) (calls : List γ) (first : β) :
    lastGiven given (c :: calls) first = lastGiven given calls ((given c).getD first) := by
  unfold lastGiven
  cases hc : given c with
  | none => rw [List.filterMap_cons_none hc, Option.getD_none]
  | some b =>
    rw [List.filterMap_cons_some hc, List.getLast?_cons, Option.getD_some, Option.getD_some]

end LastGiven

/-! ## Engines -/

namespace Engine

/-- A call that sets up an engine. -/
inductive Call where
  | benchmark (n : Int)
  | ignore (patterns : List String)
  deriving DecidableEq, Repr

/-- The benchmark that a call sets. -/
def Call.benchmark? : Call → Option Int
  | .benchmark n => some n
  | .ignore _ => none

/-- The patterns that a call sets. -/
def Call.patterns? : Call → Option (List String)
  | .benchmark _ => none
  | .ignore patterns => some patterns

/-- An engine behind a call. -/
def call (e : Engine) : Call → Engine
  | .benchmark n => e.withBenchmark n
  | .ignore patterns => e.ignoring patterns

/-- Routes and configured patterns stay through all calls; benchmark and patterns are those of
the last call that sets them. -/
theorem foldl_call (calls : List Call) (e : Engine) :
    calls.foldl call e =
      { e with
        benchmark := lastGiven Call.benchmark? calls e.benchmark
        ignore :=
          { e.ignore with overrides := lastGiven Call.patterns? calls e.ignore.overrides } } := by
  induction calls generalizing e with
  | nil => rfl
  | cons c calls ih =>
    rw [List.foldl_cons, ih, lastGiven_cons, lastGiven_cons]
    cases c <;> rfl

/-- The engine of a configuration, behind a sequence of calls. -/
def setUp (config : Config) (table : RouteTable) (inputs : List RouteInput)
    (calls : List Call) : Engine :=
  calls.foldl call (ofConfig config table inputs)

theorem setUp_eq (config : Config) (table : RouteTable) (inputs : List RouteInput)
    (calls : List Call) :
    setUp config table inputs calls =
      { routes := table.resolveAll inputs
        benchmark := lastGiven Call.benchmark? calls config.benchmark
        ignore := ⟨config.ignoredRoutes, lastGiven Call.patterns? calls []⟩ } :=
  foldl_call calls _

end Engine

/-! ## Auditors -/

namespace Auditor

/-- A call that sets up an auditor. -/
inductive Call where
  | named (name : String)
  | weight (n : Int)
  | penalty (n : Int)
  /-- a limit, or that there is none -/
  | limit (n : Option Int)
  | ignore (patterns : List String)
  | when (condition : Route → Bool)

namespace Call

/-- The name that a call sets. -/
def name? : Call → Option (Option String)
  | .named name => some name
  | _ => none

/-- The weight that a call sets. -/
def weight? : Call → Option Int
  | .weight n => some n
  | _ => none

/-- The penalty that a call sets. -/
def penalty? : Call → Option Int
  | .penalty n => some n
  | _ => none

/-- The limit that a call sets or takes away. -/
def limit? : Call → Option (Option Int)
  | .limit n => some n
  | _ => none

/-- The patterns that a call sets. -/
def patterns? : Call → Option (List String)
  | .ignore patterns => some patterns
  | _ => none

/-- The condition that a call adds. -/
def condition? : Call → Option (Route → Bool)
  | .when condition => some condition
  | _ => none

end Call

/-- An auditor behind a call. -/
def call (a : Auditor) : Call → Auditor
  | .named name => { a with customName := some name }
  | .weight n => { a with weight := n }
  | .penalty n => { a with penalty := n }
  | .limit n => { a with limit := n }
  | .ignore patterns => a.ignoring patterns
  | .when condition => a.when condition

/-- Every setting is that of the last call for it; conditions are those of all calls, behind
the ones that were there. -/
theorem foldl_call (calls : List Call) (a : Auditor) :
    calls.foldl call a =
      { rule := a.rule
        customName := lastGiven Call.name? calls a.customName
        weight := lastGiven Call.weight? calls a.weight
        penalty := lastGiven Call.penalty? calls a.penalty
        limit := lastGiven Call.limit? calls a.limit
        ignore := ⟨a.ignore.defaults, lastGiven Call.patterns? calls a.ignore.overrides⟩
        conditions := a.conditions ++ calls.filterMap Call.condition? } := by
  induction calls generalizing a with
  | nil => simp
  | cons c calls ih =>
    rw [List.foldl_cons, ih]
    simp only [lastGiven_cons]
    cases c with
    | when condition =>
      have hadds : (Call.when condition).condition? = some condition := rfl
      rw [List.filterMap_cons_some hadds, List.append_cons]
      rfl
    | _ => rfl

end Auditor

/-- A rule and the calls that make an auditor of it. -/
structure Draft where
  rule : Rule
  calls : List Auditor.Call := []

namespace Draft

/-- The auditor of a draft. -/
def auditor (d : Draft) : Auditor := d.calls.foldl Auditor.call { rule := d.rule }

/-- The patterns of the last call that sets any. -/
def patterns (d : Draft) : List String := lastGiven Auditor.Call.patterns? d.calls []

/-- The conditions of all calls. -/
def conditions (d : Draft) : List (Route → Bool) := d.calls.filterMap Auditor.Call.condition?

theorem auditor_eq (d : Draft) :
    d.auditor =
      { rule := d.rule
        customName := lastGiven Auditor.Call.name? d.calls none
        weight := lastGiven Auditor.Call.weight? d.calls 1
        penalty := lastGiven Auditor.Call.penalty? d.calls 0
        limit := lastGiven Auditor.Call.limit? d.calls none
        ignore := ⟨[], d.patterns⟩
        conditions := d.conditions } :=
  Auditor.foldl_call d.calls _

end Draft

end RouteAudit
