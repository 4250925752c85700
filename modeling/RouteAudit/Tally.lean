/-
  Tally.lean --- how often each key occurs.

  WHAT THIS FILE IS FOR.  Coverage counts the tests of each route, the statistics
  count the routes of each score.  Both are tallies: ascending keys, each with the
  number of its occurrences.

  CANONICAL FORM.  No key is stored without an occurrence.  This is part of the type,
  so two tallies that count alike are equal.
-/

set_option autoImplicit false

namespace RouteAudit

/-! ## Entries -/

/-- Add occurrences of a key to entries in ascending order. -/
def addEntry {K : Type} [LT K] [DecidableLT K] [DecidableEq K] (key : K) (n : Nat) :
    List (K × Nat) → List (K × Nat)
  | [] => [(key, n)]
  | (k, m) :: rest =>
    if key < k then (key, n) :: (k, m) :: rest
    else if key = k then (k, m + n) :: rest
    else (k, m) :: addEntry key n rest

section Entries

variable {K : Type} [LT K] [DecidableLT K] [DecidableEq K]

theorem mem_addEntry {key : K} {n : Nat} {entries : List (K × Nat)} {e : K × Nat}
    (h : e ∈ addEntry key n entries) : e.1 = key ∧ n ≤ e.2 ∨ e ∈ entries := by
  induction entries with
  | nil => simp_all [addEntry]
  | cons first rest ih =>
    obtain ⟨k, m⟩ := first
    simp only [addEntry] at h
    split at h
    · rcases List.mem_cons.1 h with rfl | h
      · exact .inl ⟨rfl, Nat.le_refl _⟩
      · exact .inr h
    · split at h
      · rename_i heq
        rcases List.mem_cons.1 h with rfl | h
        · exact .inl ⟨heq.symm, Nat.le_add_left _ _⟩
        · exact .inr (List.mem_cons_of_mem _ h)
      · rcases List.mem_cons.1 h with rfl | h
        · exact .inr List.mem_cons_self
        · exact (ih h).imp id (List.mem_cons_of_mem _)

theorem positive_addEntry {key : K} {n : Nat} {entries : List (K × Nat)} (hn : 0 < n)
    (h : ∀ e ∈ entries, 0 < e.2) : ∀ e ∈ addEntry key n entries, 0 < e.2 := by
  intro e he
  rcases mem_addEntry he with ⟨_, hle⟩ | hmem
  · omega
  · exact h e hmem

variable [LE K] [Std.IsLinearOrder K] [Std.LawfulOrderLT K]

theorem ascending_addEntry {key : K} {n : Nat} {entries : List (K × Nat)}
    (h : entries.Pairwise (·.1 < ·.1)) : (addEntry key n entries).Pairwise (·.1 < ·.1) := by
  induction entries with
  | nil => simp [addEntry]
  | cons first rest ih =>
    obtain ⟨k, m⟩ := first
    rw [List.pairwise_cons] at h
    simp only [addEntry]
    split
    · rename_i hlt
      refine List.pairwise_cons.2 ⟨fun e he => ?_, List.pairwise_cons.2 h⟩
      rcases List.mem_cons.1 he with rfl | he
      · exact hlt
      · exact Std.lt_trans hlt (h.1 e he)
    · split
      · exact List.pairwise_cons.2 ⟨h.1, h.2⟩
      · rename_i hnlt hne
        refine List.pairwise_cons.2 ⟨fun e he => ?_, ih h.2⟩
        rcases mem_addEntry he with ⟨heq, _⟩ | hmem
        · rcases Std.lt_trichotomy key k with hlt | heq' | hgt
          · exact absurd hlt hnlt
          · exact absurd heq' hne
          · simpa [heq] using hgt
        · exact h.1 e hmem

end Entries

/-! ## Tallies -/

/-- Keys in ascending order, each with the positive number of its occurrences. -/
structure Tally (K : Type) [LT K] where
  entries : List (K × Nat)
  ascending : entries.Pairwise (·.1 < ·.1) := by simp
  positive : ∀ e ∈ entries, 0 < e.2 := by simp

namespace Tally

variable {K : Type} [LT K]

@[ext] theorem ext {s t : Tally K} (h : s.entries = t.entries) : s = t := by
  cases s
  cases t
  simp_all

instance [DecidableEq K] : DecidableEq (Tally K) := fun s t =>
  if h : s.entries = t.entries then isTrue (ext h) else isFalse fun e => h (e ▸ rfl)

/-- The tally of nothing. -/
def empty : Tally K := ⟨[], by simp, by simp⟩

instance : Inhabited (Tally K) := ⟨empty⟩

/-- Whether nothing was counted. -/
def isEmpty (t : Tally K) : Bool := t.entries.isEmpty

/-- The number of occurrences of all keys together. -/
def total (t : Tally K) : Nat := t.entries.foldr (fun entry n => entry.2 + n) 0

/-- The number of occurrences of a key. -/
def count [DecidableEq K] (t : Tally K) (key : K) : Nat := (t.entries.lookup key).getD 0

variable [DecidableLT K] [DecidableEq K] [LE K] [Std.IsLinearOrder K] [Std.LawfulOrderLT K]

/-- Count a key so many times more. -/
def add (t : Tally K) (key : K) (n : Nat) : Tally K :=
  if hn : 0 < n then
    ⟨addEntry key n t.entries, ascending_addEntry t.ascending, positive_addEntry hn t.positive⟩
  else t

/-- Count a key once more. -/
def mark (t : Tally K) (key : K) : Tally K := t.add key 1

/-- Count each key as often as in both tallies together. -/
def merge (t other : Tally K) : Tally K :=
  other.entries.foldl (fun sum (key, n) => sum.add key n) t

/-- The tally of a list. -/
def ofList (keys : List K) : Tally K := keys.foldl mark empty

end Tally

end RouteAudit
