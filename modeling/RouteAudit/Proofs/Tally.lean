/-
  Proofs/Tally.lean --- what the operations on tallies do to the counts.

  WHAT THIS FILE IS FOR.  A tally is seen through the number of occurrences of each key.
  Every operation adds up: the lemmas below say how much, and after them nothing needs to
  look at the entries.  No zero is stored, so the counts say all about a tally: which
  entries it has (`mem_entries_iff`) and which tally it is (`ext_count`).
-/
import Mathlib.Algebra.Ring.Nat
import Mathlib.Data.List.Sort
import RouteAudit.Tally

set_option autoImplicit false

namespace RouteAudit

section Entries

variable {K : Type} [DecidableEq K]

theorem lookup_cons_eq_ite (k key : K) (n : Nat) (entries : List (K × Nat)) :
    ((key, n) :: entries).lookup k = if k = key then some n else entries.lookup k := by
  rw [List.lookup_cons]
  by_cases hk : k = key
  · simp [hk]
  · have hbeq : (k == key) = false := by simpa using hk
    rw [hbeq, if_neg hk]

variable [LT K] [LE K] [Std.LawfulOrderLT K]

/-- A key before all entries has none of its own. -/
theorem lookup_eq_none_of_lt {key : K} {entries : List (K × Nat)}
    (h : ∀ e ∈ entries, key < e.1) : entries.lookup key = none := by
  rw [List.lookup_eq_none_iff]
  intro e he
  rw [bne_iff_ne]
  intro heq
  have hlt := h e he
  rw [heq] at hlt
  exact absurd hlt Std.lt_irrefl

/-- In ascending entries the first entry of a key is its only one. -/
theorem lookup_eq_some_iff_mem {k : K} {n : Nat} {entries : List (K × Nat)}
    (h : entries.Pairwise (·.1 < ·.1)) : entries.lookup k = some n ↔ (k, n) ∈ entries := by
  induction entries with
  | nil => simp
  | cons first rest ih =>
    obtain ⟨key, m⟩ := first
    obtain ⟨hfirst, hrest⟩ := List.pairwise_cons.1 h
    rw [lookup_cons_eq_ite, List.mem_cons]
    by_cases hk : k = key
    · subst hk
      have hnot : (k, n) ∉ rest := fun hmem => Std.lt_irrefl (hfirst (k, n) hmem)
      simp [hnot, eq_comm]
    · rw [if_neg hk, ih hrest]
      simp [hk]

variable [DecidableLT K] [Std.IsLinearOrder K]

/-- Adding occurrences of a key changes the entry of that key and no other. -/
theorem lookup_addEntry {key k : K} {n : Nat} {entries : List (K × Nat)}
    (h : entries.Pairwise (·.1 < ·.1)) :
    ((addEntry key n entries).lookup k).getD 0 =
      (entries.lookup k).getD 0 + if k = key then n else 0 := by
  induction entries with
  | nil =>
    rw [addEntry, lookup_cons_eq_ite]
    by_cases hk : k = key <;> simp [hk]
  | cons first rest ih =>
    obtain ⟨other, m⟩ := first
    obtain ⟨hfirst, hrest⟩ := List.pairwise_cons.1 h
    simp only [addEntry]
    split
    · rename_i hlt
      rw [lookup_cons_eq_ite]
      by_cases hk : k = key
      · -- Nothing is stored for the key: the entries ascend from one behind it.
        subst hk
        have hnone : ((other, m) :: rest).lookup k = none := by
          refine lookup_eq_none_of_lt fun e he => ?_
          rcases List.mem_cons.1 he with rfl | he
          · exact hlt
          · exact Std.lt_trans hlt (hfirst e he)
        simp [hnone]
      · simp [hk]
    · split
      · rename_i heq
        subst heq
        rw [lookup_cons_eq_ite, lookup_cons_eq_ite]
        by_cases hk : k = key <;> simp [hk]
      · rename_i hne
        rw [lookup_cons_eq_ite, lookup_cons_eq_ite]
        by_cases hk : k = other
        · have hkey : ¬ k = key := fun h => hne (h.symm.trans hk)
          rw [if_pos hk, if_pos hk, if_neg hkey, Nat.add_zero]
        · rw [if_neg hk, if_neg hk]
          exact ih hrest

omit [LE K] [Std.LawfulOrderLT K] [Std.IsLinearOrder K] in
/-- Adding occurrences of a key adds them to the sum over all entries. -/
theorem sum_addEntry (key : K) (n : Nat) (entries : List (K × Nat)) :
    ((addEntry key n entries).map (·.2)).sum = (entries.map (·.2)).sum + n := by
  induction entries with
  | nil => simp [addEntry]
  | cons first rest ih =>
    obtain ⟨other, m⟩ := first
    simp only [addEntry]
    split
    · simp only [List.map_cons, List.sum_cons]
      omega
    · split
      · simp only [List.map_cons, List.sum_cons]
        omega
      · simp only [List.map_cons, List.sum_cons, ih]
        omega

end Entries

namespace Tally

variable {K : Type} [LT K] [DecidableEq K]

@[simp] theorem count_empty (key : K) : (empty : Tally K).count key = 0 := rfl

variable [DecidableLT K] [LE K] [Std.IsLinearOrder K] [Std.LawfulOrderLT K]

@[simp] theorem count_add (t : Tally K) (key : K) (n : Nat) (k : K) :
    (t.add key n).count k = t.count k + if k = key then n else 0 := by
  unfold add
  split
  · exact lookup_addEntry t.ascending
  · rename_i hn
    obtain rfl : n = 0 := by omega
    simp

@[simp] theorem count_mark (t : Tally K) (key k : K) :
    (t.mark key).count k = t.count k + if k = key then 1 else 0 := count_add t key 1 k

/-- Adding entries one by one adds to each key what is stored for it. -/
theorem count_foldl_add {entries : List (K × Nat)} (h : entries.Pairwise (·.1 < ·.1))
    (t : Tally K) (k : K) :
    (entries.foldl (fun sum entry => sum.add entry.1 entry.2) t).count k =
      t.count k + (entries.lookup k).getD 0 := by
  induction entries generalizing t with
  | nil => rfl
  | cons first rest ih =>
    obtain ⟨key, n⟩ := first
    obtain ⟨hfirst, hrest⟩ := List.pairwise_cons.1 h
    rw [List.foldl_cons, ih hrest, count_add, lookup_cons_eq_ite]
    by_cases hk : k = key
    · subst hk
      simp [lookup_eq_none_of_lt hfirst]
    · rw [if_neg hk, if_neg hk, Nat.add_zero]

@[simp] theorem count_merge (t other : Tally K) (k : K) :
    (t.merge other).count k = t.count k + other.count k :=
  count_foldl_add other.ascending t k

theorem count_foldl_mark (keys : List K) (t : Tally K) (k : K) :
    (keys.foldl mark t).count k = t.count k + keys.count k := by
  induction keys generalizing t with
  | nil => rfl
  | cons key rest ih =>
    rw [List.foldl_cons, ih, count_mark, List.count_cons]
    by_cases hk : k = key
    · simp only [hk, BEq.rfl, if_true]
      omega
    · have hbeq : (key == k) = false := by simpa using fun h : key = k => hk h.symm
      simp [hk, hbeq]

@[simp] theorem count_ofList (keys : List K) (k : K) : (ofList keys).count k = keys.count k := by
  unfold ofList
  rw [count_foldl_mark, count_empty, Nat.zero_add]

/-- In the merger of several tallies each key has its occurrences in all of them. -/
theorem count_foldl_merge (tallies : List (Tally K)) (t : Tally K) (k : K) :
    (tallies.foldl merge t).count k = t.count k + (tallies.map (·.count k)).sum := by
  induction tallies generalizing t with
  | nil => rfl
  | cons first rest ih =>
    rw [List.foldl_cons, ih, count_merge, List.map_cons, List.sum_cons, Nat.add_assoc]

end Tally

/-! ## What a tally stores

No zero is stored, so nothing but the counts can be seen in the entries. -/

namespace Tally

variable {K : Type} [LT K]

theorem total_eq_sum (t : Tally K) : t.total = (t.entries.map (·.2)).sum := by
  rw [total, List.sum_eq_foldr, List.foldr_map]

@[simp] theorem total_empty : (empty : Tally K).total = 0 := rfl

/-- A tally has no entries if and only if it counts nothing. -/
theorem isEmpty_iff_total_eq_zero (t : Tally K) : t.isEmpty = true ↔ t.total = 0 := by
  cases hentries : t.entries with
  | nil => simp [isEmpty, total, hentries]
  | cons first rest =>
    have hpositive : 0 < first.2 := t.positive first (hentries ▸ List.mem_cons_self)
    have htotal : t.total = first.2 + rest.foldr (fun entry n => entry.2 + n) 0 := by
      rw [total, hentries, List.foldr_cons]
    have hfull : t.isEmpty = false := by rw [isEmpty, hentries, List.isEmpty_cons]
    rw [hfull, Bool.false_eq_true, false_iff]
    omega

variable [DecidableEq K] [LE K] [Std.LawfulOrderLT K]

/-- The entries are the keys that occur, each with the number of its occurrences. -/
theorem mem_entries_iff {t : Tally K} {key : K} {n : Nat} :
    (key, n) ∈ t.entries ↔ 0 < n ∧ t.count key = n := by
  rw [← lookup_eq_some_iff_mem t.ascending, count]
  constructor
  · intro hlookup
    have hmem := (lookup_eq_some_iff_mem t.ascending).1 hlookup
    exact ⟨t.positive _ hmem, by rw [hlookup, Option.getD_some]⟩
  · rintro ⟨hpositive, hcount⟩
    cases hlookup : t.entries.lookup key with
    | none =>
      rw [hlookup, Option.getD_none] at hcount
      omega
    | some m =>
      rw [hlookup, Option.getD_some] at hcount
      rw [hcount]

variable [Std.IsLinearOrder K]

/-- Tallies that count every key alike are equal. -/
theorem ext_count {s t : Tally K} (h : ∀ key, s.count key = t.count key) : s = t := by
  have hmem : ∀ e, e ∈ s.entries ↔ e ∈ t.entries := by
    rintro ⟨key, n⟩
    rw [mem_entries_iff, mem_entries_iff, h]
  have hirrefl : Std.Irrefl fun e f : K × Nat => e.1 < f.1 := ⟨fun _ => Std.lt_irrefl⟩
  have hantisymm : Std.Antisymm fun e f : K × Nat => e.1 < f.1 :=
    ⟨fun _ _ hef hfe => absurd (Std.lt_trans hef hfe) Std.lt_irrefl⟩
  exact ext (s.ascending.eq_of_mem_iff t.ascending hmem)

variable [DecidableLT K]

@[simp] theorem total_add (t : Tally K) (key : K) (n : Nat) :
    (t.add key n).total = t.total + n := by
  unfold add
  split
  · rw [total_eq_sum, total_eq_sum, sum_addEntry]
  · omega

theorem total_foldl_add (entries : List (K × Nat)) (t : Tally K) :
    (entries.foldl (fun sum entry => sum.add entry.1 entry.2) t).total =
      t.total + (entries.map (·.2)).sum := by
  induction entries generalizing t with
  | nil => rfl
  | cons first rest ih =>
    rw [List.foldl_cons, ih, total_add, List.map_cons, List.sum_cons, Nat.add_assoc]

@[simp] theorem total_merge (t other : Tally K) :
    (t.merge other).total = t.total + other.total := by
  rw [total_eq_sum other]
  exact total_foldl_add other.entries t

theorem entries_mark (t : Tally K) (key : K) : (t.mark key).entries = addEntry key 1 t.entries :=
  rfl

theorem entries_foldl_add {entries : List (K × Nat)} (h : ∀ e ∈ entries, 0 < e.2)
    (t : Tally K) :
    (entries.foldl (fun sum entry => sum.add entry.1 entry.2) t).entries =
      entries.foldl (fun sum entry => addEntry entry.1 entry.2 sum) t.entries := by
  induction entries generalizing t with
  | nil => rfl
  | cons first rest ih =>
    have hfirst : (t.add first.1 first.2).entries = addEntry first.1 first.2 t.entries := by
      unfold add
      rw [dif_pos (h first List.mem_cons_self)]
    rw [List.foldl_cons, List.foldl_cons, ih fun e he => h e (List.mem_cons_of_mem _ he), hfirst]

/-- Merging adds every entry as it is: none is zero, so none has to be left out. -/
theorem entries_merge (t other : Tally K) :
    (t.merge other).entries =
      other.entries.foldl (fun sum entry => addEntry entry.1 entry.2 sum) t.entries :=
  entries_foldl_add other.positive t

end Tally

end RouteAudit
