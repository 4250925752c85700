/-
  Coverage/Bindings.lean --- the values that variables of a test hold.

  WHAT THIS FILE IS FOR.  A test may put a route name into a variable before it uses
  it.  The bindings remember, by the name of the variable, the last literal that was
  assigned to it.
-/

set_option autoImplicit false

namespace RouteAudit.Coverage

/-- Variables and their values; the first entry of a variable is its value. -/
structure Bindings where
  entries : List (String × String) := []
  deriving DecidableEq, Repr, Inhabited

namespace Bindings

/-- No variable is bound. -/
def empty : Bindings := {}

/-- Whether no variable is bound. -/
def isEmpty (b : Bindings) : Bool := b.entries.isEmpty

/-- Give a variable a value; an earlier value is forgotten. -/
def bind (b : Bindings) (name value : String) : Bindings :=
  ⟨(name, value) :: b.entries.filter (·.1 != name)⟩

/-- The value of a variable. -/
def get? (b : Bindings) (name : String) : Option String := b.entries.lookup name

@[simp] theorem get?_empty (name : String) : empty.get? name = none := rfl

/-- Bindings are empty just if no variable has a value. -/
theorem isEmpty_iff (b : Bindings) : b.isEmpty = true ↔ ∀ name, b.get? name = none := by
  obtain ⟨entries⟩ := b
  cases entries with
  | nil => exact iff_of_true rfl fun _ => rfl
  | cons entry rest =>
    refine iff_of_false Bool.false_ne_true fun h => ?_
    have hfirst := h entry.1
    rw [get?, List.lookup_cons_self] at hfirst
    cases hfirst

@[simp] theorem get?_bind_self (b : Bindings) (name value : String) :
    (b.bind name value).get? name = some value := by
  simp [bind, get?]

private theorem lookup_filter_ne (entries : List (String × String)) {name other : String}
    (h : other ≠ name) : (entries.filter (·.1 != name)).lookup other = entries.lookup other := by
  induction entries with
  | nil => rfl
  | cons entry rest ih =>
    obtain ⟨key, value⟩ := entry
    by_cases hkey : key = name
    · subst hkey
      have hbeq : (other == key) = false := by simpa using h
      simp [List.lookup_cons, ih, hbeq]
    · simp [hkey, List.lookup_cons, ih]

@[simp] theorem get?_bind_of_ne (b : Bindings) {name other : String} (value : String)
    (h : other ≠ name) : (b.bind name value).get? other = b.get? other := by
  simp only [bind, get?, List.lookup_cons]
  have hbeq : (other == name) = false := by simpa using h
  rw [hbeq]
  exact lookup_filter_ne b.entries h

end Bindings

end RouteAudit.Coverage
