/-
  Discovery/Source.lean --- the files that are searched for tests.

  WHAT THIS FILE IS FOR.  A search asks a source for the files of a directory and for
  their texts.  A source is a disk, or a list of files that are given.  Files that do
  not parse are passed over; a file that cannot be read ends the search.  A source also
  says how texts are parsed: as PHP, where nothing else is given.
-/
import RouteAudit.Discovery.Cache
import RouteAudit.Discovery.Method
import RouteAudit.Error
import RouteAudit.Text.Blank

set_option autoImplicit false

namespace RouteAudit.Discovery

open RouteAudit.Syntax RouteAudit.Files

/-- The two requests of a search, each answered in `m`, and how it reads the texts. -/
structure Source (m : Type → Type) where
  /-- the files below a directory with an extension -/
  files : Path → String → ExceptT AuditError m (List Path)
  /-- the text of a file -/
  read : Path → ExceptT AuditError m String
  /-- the tree of a text -/
  parse : Parser := Php.parse

namespace Source

variable {m : Type → Type} [Monad m]

/-- The source that consists of the given files, whatever is asked for.  A file without
a text cannot be read. -/
def ofList (files : List (Path × Option String)) (parse : Parser := Php.parse) : Source m where
  parse := parse
  files _ _ := pure (files.map (·.1))
  read path :=
    match files.find? fun file => file.1 == path with
    | some (_, some text) => pure text
    | some (_, none) => throw (.file path .notText)
    | none => throw (.file path .notFound)

/-- Whether a path has an extension, up to ASCII case. -/
def hasExtension (extension : String) (path : Path) : Bool :=
  path.extension?.any (sameName extension)

/-- The files on a disk. -/
def ofDisk (disk : Disk m) (parse : Parser := Php.parse) : Source m where
  parse := parse
  files directory extension := ExceptT.mk do
    match ← disk.filesBelow directory with
    | .ok paths => pure (.ok (paths.filter (hasExtension extension)))
    | .error fault => pure (.error (.listing directory fault))
  read path := ExceptT.mk do
    match ← disk.read path with
    | .ok text => pure (.ok text)
    | .error fault => pure (.error (.file path fault))

end Source

variable {m : Type → Type} [Monad m]

/-- The file of a source with its tree, unless its text does not parse. -/
def readFile? (source : Source m) (path : Path) : ExceptT AuditError m (Option ParsedFile) := do
  return parseFile? source.parse path (← source.read path)

/-- The test methods below a directory. -/
def collect (s : TestSettings) (source : Source m) (directory : Path) :
    ExceptT AuditError m (List TestMethod) := do
  let paths ← source.files directory s.extension
  let parsed ← paths.mapM (readFile? source)
  return methodsIn s (parsed.filterMap id)

/-- The directory that the settings name; without one, or without a base class, there
is nothing to search. -/
def searchedDirectory (s : TestSettings) : Except AuditError Path :=
  match s.directory with
  | none => .error (.missingConfig "tests.directory")
  | some directory =>
    if directory.text.isEmpty then .error (.missingConfig "tests.directory")
    else if Text.isBlankText s.baseClass then .error (.missingConfig "tests.implementation")
    else .ok directory

/-- The test methods below the directory of the settings, searched for at most once. -/
def discover (s : TestSettings) (source : Source m) :
    ExceptT AuditError (StateT (Cache (List TestMethod)) m) (List TestMethod) := do
  match searchedDirectory s with
  | .error e => throw e
  | .ok directory => Cache.getOrCollect directory (collect s source directory)

end RouteAudit.Discovery
