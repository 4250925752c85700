/-
  Files/Path.lean --- paths of files and directories.

  WHAT THIS FILE IS FOR.  A path is kept as it was written, because it is shown that
  way.  What it names is given by its components: empty segments count for nothing,
  and neither does `.`, unless the path starts with it.  Two paths that differ only in
  these are the same path.
-/
import RouteAudit.Text.Split

set_option autoImplicit false

namespace RouteAudit

/-- A path as written. -/
structure Path where
  text : String
  deriving DecidableEq, Repr, Inhabited

namespace Path

/-- One step of a path. -/
inductive Component where
  /-- the top of the file system -/
  | root
  /-- the directory itself, where a path starts with it -/
  | here
  /-- the directory above -/
  | above
  | name (s : String)
  deriving DecidableEq, Repr, Inhabited

/-! ## Segments -/

/-- The segments of a path. -/
def segments (p : Path) : List String :=
  (Text.splitAll '/' p.text.toList).map String.ofList

/-- Whether a path starts at the top of the file system. -/
def isAbsolute (p : Path) : Bool := p.text.toList.head? == some '/'

/-- Whether a segment that is not the first one counts. -/
def counts (segment : String) : Bool := segment != "" && segment != "."

/-- The component of a segment that counts. -/
def component (segment : String) : Component :=
  if segment = ".." then .above else if segment = "." then .here else .name segment

/-- What a path says, step by step. -/
def components (p : Path) : List Component :=
  match p.segments with
  | [] => []
  | first :: rest =>
    let head :=
      if p.isAbsolute then [Component.root]
      else if first = "" then [] else [component first]
    head ++ (rest.filter counts).map component

/-- Whether two paths say the same. -/
def same (p q : Path) : Bool := p.components == q.components

theorem same_refl (p : Path) : p.same p = true := by simp [same]

/-! ## Parts -/

/-- The path of one entry of a directory. -/
def join (directory entry : Path) : Path :=
  if entry.isAbsolute || directory.text.isEmpty then entry
  else if directory.text.toList.getLast? = some '/' then ⟨directory.text ++ entry.text⟩
  else ⟨directory.text ++ "/" ++ entry.text⟩

/-- Segments without those at the end that do not count; the first one of a relative
path counts unless it is empty. -/
def trimSegments (absolute : Bool) : List String → List String
  | [] => []
  | first :: rest =>
    let rest := (rest.reverse.dropWhile fun s => !counts s).reverse
    if rest.isEmpty && !absolute && first = "" then [] else first :: rest

/-- The path of the directory that holds the entry; the top has none. -/
def parent? (p : Path) : Option Path :=
  let segments := trimSegments p.isAbsolute p.segments
  if p.isAbsolute then
    if segments.length ≤ 1 then none
    else
      match trimSegments true segments.dropLast with
      | [] | [_] => some ⟨"/"⟩
      | kept => some ⟨"/".intercalate kept⟩
  else if segments.isEmpty then none
  else some ⟨"/".intercalate (trimSegments false segments.dropLast)⟩

/-- The name of the entry itself, without its directory. -/
def fileName? (p : Path) : Option String :=
  match p.components.getLast? with
  | some (.name s) => some s
  | _ => none

/-- What follows the last dot of a name; a dot at the start does not count. -/
def extension? (p : Path) : Option String :=
  p.fileName?.bind fun name =>
    let reversed := name.toList.reverse
    match reversed.dropWhile (· ≠ '.') with
    | _ :: _ :: _ => some (String.ofList (reversed.takeWhile (· ≠ '.')).reverse)
    | _ => none

end Path

end RouteAudit
