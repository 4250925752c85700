/-
  Files/Memory.lean --- a file system that is held in memory.

  WHAT THIS FILE IS FOR.  The program asks a record of requests for files.  Here the
  requests are answered from a tree of directories, so that what a run reads and writes
  can be said and checked without a disk.

  PATHS.  The tree stands at its home, which is also the working directory.  A path is
  followed segment by segment: what is passed through has to be a directory, and nothing
  above the home can be reached.
-/
import RouteAudit.Files.Disk

set_option autoImplicit false

namespace RouteAudit.Files

/-! ## Entries -/

/-- A file or a directory. -/
inductive Entry where
  /-- a file; without a text, its bytes are none -/
  | file (text : Option String)
  | directory (entries : List (String × Entry))
  deriving Repr, Inhabited

namespace Entry

/-- The entry at the end of a chain of names. -/
def follow? : List String → Entry → Option Entry
  | [], e => some e
  | name :: rest, .directory entries => (entries.lookup name).bind (follow? rest)
  | _ :: _, .file _ => none

/-- Put an entry in the place of a name. -/
def put (entries : List (String × Entry)) (name : String) (e : Entry) : List (String × Entry) :=
  entries.filter (·.1 ≠ name) ++ [(name, e)]

/-- Change the directory at the end of a chain of names; where there is none, nothing
changes. -/
def change (f : List (String × Entry) → List (String × Entry)) : List String → Entry → Entry
  | [], .directory entries => .directory (f entries)
  | name :: rest, .directory entries =>
    match entries.lookup name with
    | some e => .directory (put entries name (change f rest e))
    | none => .directory entries
  | _, .file text => .file text

mutual

/-- The files at and below a path, each directory in the order of its names. -/
def filesAt (path : Path) : Entry → List Path
  | .file _ => [path]
  | .directory entries =>
    ((filesIn path entries).mergeSort fun a b => decide ¬ b.1 < a.1).flatMap (·.2)

/-- The files of each entry of a directory, with the name of the entry. -/
def filesIn (path : Path) : List (String × Entry) → List (String × List Path)
  | [] => []
  | (name, e) :: rest => (name, filesAt (path.join ⟨name⟩) e) :: filesIn path rest

end

end Entry

/-! ## Memories -/

/-- A tree of directories and the path that it stands at. -/
structure Memory where
  home : Path
  top : Entry := .directory []
  deriving Inhabited

namespace Memory

/-- A place in the tree: the names that lead to it, the last one first. -/
abbrev Place := List String

/-- What is at a place. -/
def entryAt (memory : Memory) (place : Place) : Except Fault Entry :=
  match memory.top.follow? place.reverse with
  | some e => .ok e
  | none => .error .notFound

/-- Go one segment further. -/
def step (memory : Memory) (place : Place) (segment : String) : Except Fault Place := do
  match ← memory.entryAt place with
  | .file _ => .error .notADirectory
  | .directory entries =>
    if segment = "" || segment = "." then .ok place
    else if segment = ".." then
      match place with
      | _ :: above => .ok above
      | [] => .error .notFound
    else if (entries.lookup segment).isSome then .ok (segment :: place)
    else .error .notFound

/-- The segments of a path from the home on. -/
def segments (memory : Memory) (path : Path) : Except Fault (List String) :=
  if path.text.isEmpty then .error .notFound
  else
    match memory.home.segments.isPrefixOf? path.segments with
    | some rest => .ok rest
    | none => if path.isAbsolute then .error .notFound else .ok path.segments

/-- What a path names. -/
def find (memory : Memory) (path : Path) : Except Fault Entry := do
  memory.entryAt (← (← memory.segments path).foldlM memory.step [])

/-! ## Reading -/

/-- The text of a file. -/
def read (memory : Memory) (path : Path) : Except Fault String := do
  match ← memory.find path with
  | .file (some text) => .ok text
  | .file none => .error .notText
  | .directory _ => .error .isADirectory

/-- The files at and below a path. -/
def filesBelow (memory : Memory) (path : Path) : Except Fault (List Path) := do
  return (← memory.find path).filesAt path

/-! ## Writing -/

/-- Put an entry of a name into the directory at a place. -/
def put (memory : Memory) (place : Place) (name : String) (e : Entry) : Memory :=
  { memory with top := memory.top.change (Entry.put · name e) place.reverse }

/-- Follow segments from a place and make the directories that are missing. -/
def makeAlong (memory : Memory) (place : Place) : List String → Except Fault Memory
  | [] => do
    match ← memory.entryAt place with
    | .directory _ => return memory
    | .file _ => throw .alreadyThere
  | segment :: rest =>
    match memory.step place segment with
    | .ok next => makeAlong memory next rest
    | .error .notFound =>
      if segment = ".." then .error .notFound
      else makeAlong (memory.put place segment (.directory [])) (segment :: place) rest
    | .error fault => .error fault

/-- Make a directory and those above it. -/
def makeDirectories (memory : Memory) (path : Path) : Except Fault Memory := do
  if path.text.isEmpty then return memory
  memory.makeAlong [] (← memory.segments path)

/-- Put a text into a file. -/
def write (memory : Memory) (path : Path) (text : Option String) : Except Fault Memory := do
  let segments ← memory.segments path
  let name := segments.getLast?.getD ""
  let place ← segments.dropLast.foldlM memory.step []
  match ← memory.entryAt place with
  | .file _ => .error .notADirectory
  | .directory entries =>
    if name = "" || name = "." || name = ".." then .error .isADirectory
    else
      match entries.lookup name with
      | some (.directory _) => .error .isADirectory
      | _ => .ok (memory.put place name (.file text))

/-- The memory with one more file and the directories it needs; one that has no place
is left out. -/
def addFile (memory : Memory) (path : Path) (text : Option String) : Memory :=
  let added := do
    let made ← memory.makeDirectories (path.parent?.getD ⟨""⟩)
    made.write path text
  match added with
  | .ok after => after
  | .error _ => memory

/-- The memory that holds the given files. -/
def ofFiles (home : Path) (files : List (Path × Option String)) : Memory :=
  files.foldl (fun memory (path, text) => memory.addFile path text) { home }

/-! ## Requests -/

/-- Keep what a change leads to, if it succeeds. -/
def keep (f : Memory → Except Fault Memory) : StateM Memory (Except Fault Unit) := do
  match f (← get) with
  | .ok after =>
    set after
    return .ok ()
  | .error fault => return .error fault

/-- Requests that are answered from a memory. -/
def disk : Disk (StateM Memory) where
  workingDirectory := return (← get).home
  isThere path := return ((← get).find path).isOk
  read path := return (← get).read path
  filesBelow path := return (← get).filesBelow path
  makeDirectories path := keep (·.makeDirectories path)
  write path text := keep (·.write path (some text))

end Memory

end RouteAudit.Files
