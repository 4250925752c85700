/-
  Files/Disk.lean --- what the program asks of a file system.

  WHAT THIS FILE IS FOR.  The audit reads configuration, routes and tests and may write
  a report.  These requests are the fields of a record, so that the same program runs
  on a real disk and on one that is held in memory.
-/
import RouteAudit.Files.Path

set_option autoImplicit false

namespace RouteAudit.Files

/-- Why a request to a file system fails. -/
inductive Fault where
  | notFound
  | alreadyThere
  | notADirectory
  | isADirectory
  | notText
  /-- anything else, in the words of the system -/
  | other (reason : String)
  deriving DecidableEq, Repr, Inhabited

namespace Fault

/-- The fault in words. -/
def message : Fault → String
  | .notFound => "No such file or directory (os error 2)"
  | .alreadyThere => "File exists (os error 17)"
  | .notADirectory => "Not a directory (os error 20)"
  | .isADirectory => "Is a directory (os error 21)"
  | .notText => "stream did not contain valid UTF-8"
  | .other reason => reason

end Fault

/-- The requests to a file system, each answered in `m`. -/
structure Disk (m : Type → Type) where
  /-- where relative paths start -/
  workingDirectory : m Path
  /-- whether a path names something -/
  isThere : Path → m Bool
  /-- the text of a file -/
  read : Path → m (Except Fault String)
  /-- the files at and below a path, each directory in the order of its names -/
  filesBelow : Path → m (Except Fault (List Path))
  /-- make a directory, and the directories above it -/
  makeDirectories : Path → m (Except Fault Unit)
  /-- put a text into a file -/
  write : Path → String → m (Except Fault Unit)

end RouteAudit.Files
