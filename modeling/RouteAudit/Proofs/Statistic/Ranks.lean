/-
  Proofs/Statistic/Ranks.lean --- what the ranks of a tally hold.

  WHAT THIS FILE IS FOR.  Written out, a tally is a list in which every key stands as often
  as it was counted.  The key at a rank is the one at that place of the list, so every rank
  below the total holds a key, and it is one that was counted.  So is the key that occurs
  most often.

  The tally of some keys is written out as the same keys in ascending order, and the key
  that occurs most often is the least of those that do.

  Main statements: `atRank?_ofList` and `count_le_of_mode?`.
-/
import RouteAudit.Proofs.Tally
import RouteAudit.Statistic.Ranks

set_option autoImplicit false

namespace RouteAudit.Tally

variable {K : Type}

/-! ## Entries written out -/

/-- Every key as often as its entry says. -/
def expand (entries : List (K × Nat)) : List K :=
  entries.flatMap fun entry => List.replicate entry.2 entry.1

theorem expand_cons (key : K) (n : Nat) (rest : List (K × Nat)) :
    expand ((key, n) :: rest) = List.replicate n key ++ expand rest := rfl

theorem length_expand (entries : List (K × Nat)) :
    (expand entries).length = (entries.map (·.2)).sum := by
  simp only [expand, List.length_flatMap, List.length_replicate]

/-- Counting through the entries finds the key at that place of the written-out list. -/
theorem keyAtRank?_eq_getElem? (entries : List (K × Nat)) (rank : Nat) :
    keyAtRank? entries rank = (expand entries)[rank]? := by
  induction entries generalizing rank with
  | nil => rfl
  | cons entry rest ih =>
    obtain ⟨key, n⟩ := entry
    rw [keyAtRank?, expand_cons, List.getElem?_append, List.length_replicate]
    by_cases hrank : rank < n
    · rw [if_pos hrank, if_pos hrank, List.getElem?_replicate_of_lt hrank]
    · rw [if_neg hrank, if_neg hrank, ih]

theorem mostFrequent_mem (best : K × Nat) (rest : List (K × Nat)) :
    mostFrequent best rest ∈ best :: rest := by
  induction rest generalizing best with
  | nil => exact List.mem_singleton.2 rfl
  | cons entry rest ih =>
    rw [mostFrequent]
    split
    · exact List.mem_cons_of_mem _ (ih entry)
    · exact List.cons_subset_cons best (List.subset_cons_self entry rest) (ih best)

/-! ## Keys of a tally -/

variable [LT K]

theorem length_expand_entries (t : Tally K) : (expand t.entries).length = t.total := by
  rw [length_expand, total_eq_sum]

/-- The key at a rank stands at that place of the tally written out. -/
theorem atRank?_eq_getElem? (t : Tally K) (rank : Nat) :
    t.atRank? rank = (expand t.entries)[rank]? :=
  keyAtRank?_eq_getElem? t.entries rank

/-- From the total on, no rank holds a key. -/
theorem atRank?_eq_none {t : Tally K} {rank : Nat} (h : t.total ≤ rank) :
    t.atRank? rank = none := by
  rw [← length_expand_entries] at h
  rw [atRank?_eq_getElem?, List.getElem?_eq_none h]

theorem atRank?_of_middle? {t : Tally K} {low high : K} (h : t.middle? = some (low, high)) :
    t.atRank? ((t.total - 1) / 2) = some low ∧ t.atRank? (t.total / 2) = some high := by
  simp only [middle?, Option.bind_eq_bind, Option.bind_eq_some_iff, Option.pure_def,
    Option.some.injEq, Prod.mk.injEq] at h
  obtain ⟨_, hlow, _, hhigh, rfl, rfl⟩ := h
  exact ⟨hlow, hhigh⟩

variable [LE K] [DecidableEq K] [Std.LawfulOrderLT K]

theorem count_expand {entries : List (K × Nat)} (h : entries.Pairwise (·.1 < ·.1)) (key : K) :
    (expand entries).count key = (entries.lookup key).getD 0 := by
  induction entries with
  | nil => rfl
  | cons entry rest ih =>
    obtain ⟨other, n⟩ := entry
    obtain ⟨hfirst, hrest⟩ := List.pairwise_cons.1 h
    rw [expand_cons, List.count_append, List.count_replicate, ih hrest, lookup_cons_eq_ite]
    by_cases hkey : key = other
    · subst hkey
      rw [lookup_eq_none_of_lt hfirst]
      simp
    · have hbeq : (other == key) = false := beq_false_of_ne (Ne.symm hkey)
      simp [hkey, hbeq]

theorem count_expand_entries (t : Tally K) (key : K) :
    (expand t.entries).count key = t.count key := count_expand t.ascending key

theorem mem_expand_entries_iff {t : Tally K} {key : K} :
    key ∈ expand t.entries ↔ 0 < t.count key := by
  rw [← count_expand_entries, List.count_pos_iff]

/-- Every rank below the total holds a key that was counted. -/
theorem exists_atRank? {t : Tally K} {rank : Nat} (h : rank < t.total) :
    ∃ key, t.atRank? rank = some key ∧ 0 < t.count key := by
  rw [← length_expand_entries] at h
  refine ⟨(expand t.entries)[rank], ?_, mem_expand_entries_iff.1 (List.getElem_mem h)⟩
  rw [atRank?_eq_getElem?, List.getElem?_eq_getElem h]

/-- If anything was counted, there are keys in the middle, and they were counted. -/
theorem exists_middle? {t : Tally K} (h : 0 < t.total) :
    ∃ low high, t.middle? = some (low, high) ∧ 0 < t.count low ∧ 0 < t.count high := by
  have hlow : (t.total - 1) / 2 < t.total := by omega
  have hhigh : t.total / 2 < t.total := by omega
  obtain ⟨low, hlow, hcountLow⟩ := exists_atRank? hlow
  obtain ⟨high, hhigh, hcountHigh⟩ := exists_atRank? hhigh
  refine ⟨low, high, ?_, hcountLow, hcountHigh⟩
  simp only [middle?, hlow, hhigh, Option.bind_eq_bind, Option.bind_some, Option.pure_def]

/-- If anything was counted, there is a key that occurs most often, and it was counted. -/
theorem exists_mode? {t : Tally K} (h : 0 < t.total) :
    ∃ key, t.mode? = some key ∧ 0 < t.count key := by
  cases hentries : t.entries with
  | nil => simp [total, hentries] at h
  | cons first rest =>
    have hmem : mostFrequent first rest ∈ t.entries := hentries ▸ mostFrequent_mem first rest
    obtain ⟨hpositive, hcount⟩ := mem_entries_iff.1 hmem
    exact ⟨(mostFrequent first rest).1, by rw [mode?, hentries], by rwa [hcount]⟩

/-! ## The order of the keys -/

variable [Std.IsLinearOrder K]

omit [DecidableEq K] in
/-- Ascending entries are written out in ascending order. -/
theorem pairwise_expand {entries : List (K × Nat)} (h : entries.Pairwise (·.1 < ·.1)) :
    (expand entries).Pairwise (· ≤ ·) := by
  rw [expand, List.pairwise_flatMap]
  constructor
  · exact fun entry _ => List.pairwise_replicate.2 (.inr (Std.le_refl entry.1))
  · refine h.imp fun {entry entry'} hlt key hkey key' hkey' => ?_
    rw [(List.mem_replicate.1 hkey).2, (List.mem_replicate.1 hkey').2]
    exact Std.le_of_lt hlt

omit [DecidableEq K] in
/-- Of ascending entries, the one that is picked is not outnumbered, and no key before its
own is as frequent. -/
theorem le_mostFrequent {best : K × Nat} {rest : List (K × Nat)}
    (h : (best :: rest).Pairwise (·.1 < ·.1)) :
    ∀ entry ∈ best :: rest, entry.2 ≤ (mostFrequent best rest).2 ∧
      (entry.2 = (mostFrequent best rest).2 → (mostFrequent best rest).1 ≤ entry.1) := by
  induction rest generalizing best with
  | nil =>
    intro entry hentry
    rw [List.mem_singleton.1 hentry]
    exact ⟨Nat.le_refl _, fun _ => Std.le_refl _⟩
  | cons next rest ih =>
    obtain ⟨hbest, hrest⟩ := List.pairwise_cons.1 h
    intro entry hentry
    rw [mostFrequent]
    split
    · rename_i hless
      rcases List.mem_cons.1 hentry with rfl | hentry
      · -- The best one so far is given up only for one that occurs more often.
        have hnext := (ih hrest next List.mem_cons_self).1
        exact ⟨by omega, fun htie => by omega⟩
      · exact ih hrest entry hentry
    · rename_i hnot
      have hpair : (best :: rest).Pairwise (·.1 < ·.1) :=
        h.sublist (List.cons_sublist_cons.2 (List.sublist_cons_self next rest))
      rcases List.mem_cons.1 hentry with rfl | hentry
      · exact ih hpair entry List.mem_cons_self
      · rcases List.mem_cons.1 hentry with rfl | hentry
        · obtain ⟨hle, htie⟩ := ih hpair best List.mem_cons_self
          refine ⟨by omega, fun heq => ?_⟩
          exact Std.le_trans (htie (by omega)) (Std.le_of_lt (hbest entry List.mem_cons_self))
        · exact ih hpair entry (List.mem_cons_of_mem best hentry)

/-- No key occurs more often than the mode, and none before it as often. -/
theorem count_le_of_mode? {t : Tally K} {mode : K} (h : t.mode? = some mode) (key : K) :
    t.count key ≤ t.count mode ∧ (t.count key = t.count mode → mode ≤ key) := by
  cases hentries : t.entries with
  | nil => simp [mode?, hentries] at h
  | cons first rest =>
    obtain rfl : (mostFrequent first rest).1 = mode := by simpa [mode?, hentries] using h
    have hmem : mostFrequent first rest ∈ t.entries := hentries ▸ mostFrequent_mem first rest
    obtain ⟨hpositive, hcount⟩ := mem_entries_iff.1 hmem
    rw [hcount]
    by_cases hkey : 0 < t.count key
    · have hentry : (key, t.count key) ∈ first :: rest :=
        hentries ▸ mem_entries_iff.2 ⟨hkey, rfl⟩
      exact le_mostFrequent (hentries ▸ t.ascending) _ hentry
    · exact ⟨by omega, fun htie => by omega⟩

/-! ## The tally of a list -/

variable [DecidableLT K]

theorem total_foldl_mark (keys : List K) (t : Tally K) :
    (keys.foldl mark t).total = t.total + keys.length := by
  induction keys generalizing t with
  | nil => rfl
  | cons key rest ih =>
    rw [List.foldl_cons, ih, mark, total_add, List.length_cons, Nat.add_assoc, Nat.add_comm 1]

theorem total_ofList (keys : List K) : (ofList keys).total = keys.length := by
  rw [ofList, total_foldl_mark, total_empty, Nat.zero_add]

theorem total_ofList_pos {keys : List K} (h : keys ≠ []) : 0 < (ofList keys).total := by
  rw [total_ofList]
  exact List.length_pos_of_ne_nil h

theorem count_ofList_pos_iff {keys : List K} {key : K} :
    0 < (ofList keys).count key ↔ key ∈ keys := by
  rw [count_ofList, List.count_pos_iff]

theorem ofList_eq_of_perm {keys keys' : List K} (h : keys.Perm keys') :
    ofList keys = ofList keys' := by
  refine ext_count fun key => ?_
  rw [count_ofList, count_ofList, h.count_eq]

variable [DecidableLE K]

/-- Written out, the tally of some keys is the sorted list of them. -/
theorem expand_ofList (keys : List K) : expand (ofList keys).entries = keys.mergeSort := by
  have hperm : (expand (ofList keys).entries).Perm keys.mergeSort := by
    refine List.perm_iff_count.2 fun key => ?_
    rw [count_expand_entries, count_ofList, (List.mergeSort_perm keys _).count_eq]
  have htrans : ∀ a b c : K, decide (a ≤ b) = true → decide (b ≤ c) = true →
      decide (a ≤ c) = true := by
    simpa only [decide_eq_true_iff] using fun _ _ _ => Std.le_trans
  have htotal : ∀ a b : K, (decide (a ≤ b) || decide (b ≤ a)) = true := by
    simpa only [Bool.or_eq_true, decide_eq_true_iff] using fun _ _ => Std.le_total
  have hsorted : keys.mergeSort.Pairwise (· ≤ ·) :=
    (List.pairwise_mergeSort htrans htotal keys).imp of_decide_eq_true
  exact hperm.eq_of_pairwise (fun _ _ _ _ => Std.le_antisymm)
    (pairwise_expand (ofList keys).ascending) hsorted

/-- The key at a rank is the one at that place among the sorted keys. -/
theorem atRank?_ofList (keys : List K) (rank : Nat) :
    (ofList keys).atRank? rank = keys.mergeSort[rank]? := by
  rw [atRank?_eq_getElem?, expand_ofList]

end RouteAudit.Tally
