/-
  Main.lean --- the program.

  WHAT THIS FILE IS FOR.  The requests of a run are answered by the real file system.
-/
import RouteAudit.CommandLine.Run

set_option autoImplicit false

namespace RouteAudit.Main

open RouteAudit.Files

/-- The fault that an error of the system is. -/
def faultOf : IO.Error → Fault
  | .noFileOrDirectory _ _ _ => .notFound
  | .alreadyExists _ _ _ => .alreadyThere
  | .inappropriateType _ _ _ => .isADirectory
  | e => .other (toString e)

/-- The answer to a request. -/
def answer {α : Type} (request : IO α) : IO (Except Fault α) := do
  try return .ok (← request)
  catch e => return .error (faultOf e)

/-- The text of a file. -/
def read (path : Path) : IO (Except Fault String) := do
  match ← answer (IO.FS.readBinFile path.text) with
  | .error fault => return .error fault
  | .ok bytes => return (String.fromUTF8? bytes).elim (.error .notText) .ok

/-- The files at and below a path. -/
partial def filesBelow (path : Path) : IO (List Path) := do
  let place := (← IO.currentDir) / path.text
  if ← place.isDir then
    let names := ((← place.readDir).toList.map (·.fileName)).mergeSort fun a b => decide ¬ b < a
    return (← names.mapM fun name => filesBelow (path.join ⟨name⟩)).flatten
  else
    let _ ← place.metadata
    return [path]

/-- Requests that are answered by the system. -/
def disk : Disk IO where
  workingDirectory := return ⟨toString (← IO.currentDir)⟩
  isThere path := do
    if path.text.isEmpty then return false
    ((← IO.currentDir) / path.text).pathExists
  read path := read path
  filesBelow path := answer (filesBelow path)
  makeDirectories path := answer (IO.FS.createDirAll path.text)
  write path text := answer (IO.FS.writeFile path.text text)

end RouteAudit.Main

open RouteAudit RouteAudit.CommandLine in
/-- Run with the words of the command line. -/
def main (words : List String) : IO UInt32 := do
  let outcome ← run Main.disk words
  IO.print outcome.output
  match outcome.errorLine? with
  | some line => IO.eprintln line
  | none => pure ()
  return outcome.exitCode.toUInt32
