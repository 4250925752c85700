/-
  Discovery/Cache.lean --- what was found, remembered by directory.

  WHAT THIS FILE IS FOR.  Several auditors look at the same tests.  A directory is
  searched once; a search that fails is not remembered.

  CELLS.  A directory that was asked for has a cell, which a search fills if it succeeds.
  The cell of a directory whose searches all failed stays, and it is empty: such a
  directory looks like one that nobody asked for.
-/
import RouteAudit.Files.Path

set_option autoImplicit false

namespace RouteAudit.Discovery

/-- The cells of directories, by what their paths say. -/
structure Cache (α : Type) where
  cells : List (List Path.Component × Option α) := []
  deriving Inhabited

namespace Cache

variable {α : Type}

/-- Nobody asked for a directory. -/
def empty : Cache α := {}

/-- Forget everything. -/
def clear (_ : Cache α) : Cache α := empty

/-- The cell of a directory, if it has one. -/
def cell? (c : Cache α) (directory : Path) : Option (Option α) :=
  c.cells.lookup directory.components

/-- What was found below a directory. -/
def get? (c : Cache α) (directory : Path) : Option α := (c.cell? directory).join

/-- Put something into the cell of a directory, or nothing. -/
def put (c : Cache α) (directory : Path) (content : Option α) : Cache α :=
  ⟨(directory.components, content) :: c.cells⟩

/-- Give a directory an empty cell, unless it has a cell. -/
def reserve (c : Cache α) (directory : Path) : Cache α :=
  match c.cell? directory with
  | some _ => c
  | none => c.put directory none

/-- Remember what was found below a directory. -/
def insert (c : Cache α) (directory : Path) (found : α) : Cache α := c.put directory (some found)

@[simp] theorem get?_empty (directory : Path) : (empty : Cache α).get? directory = none := rfl

theorem cell?_put (c : Cache α) (directory other : Path) (content : Option α) :
    (c.put directory content).cell? other =
      if other.same directory then some content else c.cell? other := by
  by_cases h : other.components = directory.components
  · simp [put, cell?, Path.same, h]
  · have hbeq : (other.components == directory.components) = false := by simpa using h
    simp [put, cell?, Path.same, List.lookup_cons, hbeq]

theorem get?_insert (c : Cache α) (directory other : Path) (found : α) :
    (c.insert directory found).get? other =
      if other.same directory then some found else c.get? other := by
  unfold get? insert
  rw [cell?_put]
  split <;> rfl

/-- An empty cell looks like none. -/
@[simp] theorem get?_reserve (c : Cache α) (directory other : Path) :
    (c.reserve directory).get? other = c.get? other := by
  unfold reserve
  cases hcell : c.cell? directory with
  | some content => rfl
  | none =>
    unfold get?
    rw [cell?_put]
    by_cases h : other.same directory = true
    · have hcomponents : other.components = directory.components := eq_of_beq h
      have hother : c.cell? other = none := by rw [cell?, hcomponents, ← cell?, hcell]
      rw [if_pos h, hother]
      rfl
    · rw [if_neg h]

/-- What is remembered for a directory; otherwise what the search finds, which is then
remembered unless the search fails. -/
def getOrCollect {ε : Type} {m : Type → Type} [Monad m] (directory : Path)
    (collect : ExceptT ε m α) : ExceptT ε (StateT (Cache α) m) α :=
  ExceptT.mk fun c => do
    let c := c.reserve directory
    match c.get? directory with
    | some found => pure (.ok found, c)
    | none =>
      match ← collect.run with
      | .ok found => pure (.ok found, c.insert directory found)
      | .error e => pure (.error e, c)

section GetOrCollect

variable {ε : Type} {m : Type → Type} [Monad m] {c : Cache α} {directory : Path}
  (collect : ExceptT ε m α)

theorem run_getOrCollect_of_some {found : α} (h : c.get? directory = some found) :
    (getOrCollect directory collect).run.run c = pure (.ok found, c.reserve directory) := by
  have hreserved : (c.reserve directory).get? directory = some found := by rw [get?_reserve, h]
  simp only [getOrCollect, ExceptT.run, ExceptT.mk, StateT.run, hreserved]

theorem run_getOrCollect_of_none (h : c.get? directory = none) :
    (getOrCollect directory collect).run.run c =
      collect.run >>= fun
        | .ok found => pure (.ok found, (c.reserve directory).insert directory found)
        | .error e => pure (.error e, c.reserve directory) := by
  have hreserved : (c.reserve directory).get? directory = none := by rw [get?_reserve, h]
  simp only [getOrCollect, ExceptT.run, ExceptT.mk, StateT.run, hreserved]

end GetOrCollect

end Cache

end RouteAudit.Discovery
