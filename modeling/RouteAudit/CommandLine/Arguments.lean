/-
  CommandLine/Arguments.lean --- what a run is asked for.

  WHAT THIS FILE IS FOR.  The words of a command line are taken one by one.  An option
  that wants a value takes the next word, unless that is an option itself; what it got
  is looked at when the next option or name comes, or at the end.  Behind `--` all words
  are names.
-/
import RouteAudit.Files.Path
import RouteAudit.Word

set_option autoImplicit false

namespace RouteAudit.CommandLine

/-! ## Options -/

/-- An option with a value. -/
inductive Setting where
  | config
  | routes
  | benchmark
  | ignore
  | exportTo
  deriving DecidableEq, Repr, Inhabited

/-- An option without a value. -/
inductive Switch where
  | json
  | quiet
  | verbose
  | help
  deriving DecidableEq, Repr, Inhabited

namespace Setting

/-- The setting of a word. -/
def ofName? : String → Option Setting
  | "config" => some .config
  | "routes" => some .routes
  | "benchmark" => some .benchmark
  | "ignore" => some .ignore
  | "export" => some .exportTo
  | _ => none

/-- The setting as messages show it. -/
def shown : Setting → String
  | .config => "--config <CONFIG>"
  | .routes => "--routes <FILE>"
  | .benchmark => "--benchmark <N>"
  | .ignore => "--ignore <PAT[,PAT]>"
  | .exportTo => "--export [<FILE>]"

/-- Whether any word that follows is the value, whatever it looks like. -/
def takesAny : Setting → Bool
  | .benchmark => true
  | _ => false

end Setting

namespace Switch

/-- The switch of a word. -/
def ofName? : String → Option Switch
  | "json" => some .json
  | "quiet" => some .quiet
  | "verbose" => some .verbose
  | "help" => some .help
  | _ => none

/-- The switch of a letter. -/
def ofLetter? : Char → Option Switch
  | 'v' => some .verbose
  | 'h' => some .help
  | _ => none

/-- The switch as messages show it. -/
def shown : Switch → String
  | .json => "--json"
  | .quiet => "--quiet"
  | .verbose => "--verbose..."
  | .help => "--help"

end Switch

/-! ## Faults -/

/-- Why the words of a command line cannot be taken. -/
inductive ArgumentFault where
  | unexpected (word : String)
  | unexpectedValue (value option : String)
  | missingValue (option : String)
  | repeated (option : String)
  | badNumber (value option : String) (fault : Word.Fault)
  deriving DecidableEq, Repr, Inhabited

/-- The fault in words. -/
def ArgumentFault.message : ArgumentFault → String
  | .unexpected word => "unexpected argument '" ++ word ++ "' found"
  | .unexpectedValue value option =>
    "unexpected value '" ++ value ++ "' for '" ++ option ++ "' found; no more were expected"
  | .missingValue option => "a value is required for '" ++ option ++ "' but none was supplied"
  | .repeated option => "the argument '" ++ option ++ "' cannot be used multiple times"
  | .badNumber value option fault =>
    "invalid value '" ++ value ++ "' for '" ++ option ++ "': " ++ fault.message

/-! ## Arguments -/

/-- What a run is asked for. -/
structure Arguments where
  config : Option Path := none
  routes : Option Path := none
  /-- in place of the configured benchmark -/
  benchmark : Option Int := none
  ignore : List String := []
  json : Bool := false
  /-- a report is written: to a file, or where the configuration says -/
  exportTo : Option (Option Path) := none
  quiet : Bool := false
  /-- how much is logged -/
  verbosity : Nat := 0
  help : Bool := false
  /-- the names of routes; none for all routes -/
  names : List String := []
  deriving DecidableEq, Repr, Inhabited

namespace Arguments

/-- The file of the configuration. -/
def configFile (a : Arguments) : Path := a.config.getD ⟨"audit-routes.yml"⟩

/-- The names of routes, or the one that stands for all. -/
def routeNames (a : Arguments) : List String := if a.names.isEmpty then ["*"] else a.names

end Arguments

/-! ## Taking words -/

/-- The words taken so far. -/
structure Progress where
  arguments : Arguments := {}
  /-- an option whose value is awaited, or not looked at yet -/
  pending : Option (Setting × Option String) := none
  /-- whether only names follow -/
  hasOnlyNames : Bool := false
  deriving DecidableEq, Repr, Inhabited

/-- Taking words, or the fault. -/
abbrev Taking (α : Type) := Except ArgumentFault α

/-- A value that is set at most once. -/
def once {α : Type} (shown : String) (already : Option α) : Taking Unit :=
  if already.isSome then .error (.repeated shown) else .ok ()

/-- The path of a value. -/
def pathOf (setting : Setting) (value : String) : Taking Path :=
  if value.isEmpty then .error (.missingValue setting.shown) else .ok ⟨value⟩

/-- Set an option to a value. -/
def Arguments.set (a : Arguments) (setting : Setting) (value : String) : Taking Arguments := do
  match setting with
  | .config =>
    once setting.shown a.config
    return { a with config := some (← pathOf setting value) }
  | .routes =>
    once setting.shown a.routes
    return { a with routes := some (← pathOf setting value) }
  | .benchmark =>
    once setting.shown a.benchmark
    match Word.parse value with
    | .ok n => return { a with benchmark := some n }
    | .error fault => throw (.badNumber value setting.shown fault)
  | .ignore =>
    return { a with ignore := a.ignore ++ (Text.splitAll ',' value.toList).map String.ofList }
  | .exportTo =>
    once setting.shown a.exportTo
    return { a with exportTo := some (some (← pathOf setting value)) }

/-- Set an option that got no value. -/
def Arguments.setBare (a : Arguments) (setting : Setting) : Taking Arguments := do
  match setting with
  | .exportTo =>
    once setting.shown a.exportTo
    return { a with exportTo := some none }
  | _ => throw (.missingValue setting.shown)

/-- Turn a switch on. -/
def Arguments.turnOn (a : Arguments) (switch : Switch) : Taking Arguments :=
  match switch with
  | .json => if a.json then .error (.repeated switch.shown) else .ok { a with json := true }
  | .quiet => if a.quiet then .error (.repeated switch.shown) else .ok { a with quiet := true }
  | .verbose => .ok { a with verbosity := a.verbosity + 1 }
  | .help => .ok { a with help := true }

namespace Progress

/-- Look at what a pending option got. -/
def settle (p : Progress) : Taking Progress := do
  match p.pending with
  | none => return p
  | some (setting, some value) =>
    return { p with arguments := ← p.arguments.set setting value, pending := none }
  | some (setting, none) =>
    return { p with arguments := ← p.arguments.setBare setting, pending := none }

/-- Take a name. -/
def takeName (p : Progress) (word : String) : Taking Progress := do
  let p ← p.settle
  return { p with arguments := { p.arguments with names := p.arguments.names ++ [word] } }

/-- Take a switch. -/
def takeSwitch (p : Progress) (switch : Switch) : Taking Progress := do
  let p ← p.settle
  return { p with arguments := ← p.arguments.turnOn switch }

/-- Take an option by its name, with the value behind an equals sign if there is one. -/
def takeLong (p : Progress) (name : String) (value : Option String) : Taking Progress := do
  match Setting.ofName? name, Switch.ofName? name, value with
  | some setting, _, some value =>
    let p ← p.settle
    return { p with arguments := ← p.arguments.set setting value }
  | some setting, _, none => return { ← p.settle with pending := some (setting, none) }
  | none, some switch, none => p.takeSwitch switch
  | none, some switch, some value => throw (.unexpectedValue value switch.shown)
  | none, none, _ => throw (.unexpected ("--" ++ name))

/-- Take switches by their letters. -/
def takeLetters (p : Progress) : List Char → Taking Progress
  | [] => .ok p
  | c :: rest => do
    match Switch.ofLetter? c with
    | some switch => (← p.takeSwitch switch).takeLetters rest
    | none => throw (.unexpected (String.ofList ['-', c]))

/-- Take the next word. -/
def take (p : Progress) (word : String) : Taking Progress := do
  if p.hasOnlyNames then p.takeName word
  else
    let awaiting := match p.pending with
      | some (setting, none) => some setting
      | _ => none
    if awaiting.any Setting.takesAny then
      return { p with pending := awaiting.map fun setting => (setting, some word) }
    match word.toList, awaiting with
    | ['-', '-'], _ => return { p with hasOnlyNames := true }
    | '-' :: '-' :: rest, _ =>
      let (name, value) := Text.splitOnce '=' rest
      p.takeLong (String.ofList name) (value.map String.ofList)
    | '-' :: c :: rest, _ => p.takeLetters (c :: rest)
    | _, some setting => return { p with pending := some (setting, some word) }
    | _, none => p.takeName word

end Progress

/-- What the words of a command line ask for. -/
def Arguments.parse (words : List String) : Taking Arguments := do
  let taken ← words.foldlM Progress.take {}
  return (← taken.settle).arguments

end RouteAudit.CommandLine
