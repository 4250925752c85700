/-
  Proofs/Text/Split.lean --- cutting characters at a separator.

  WHAT THIS FILE IS FOR.  Names are cut at backslashes, middleware texts at a colon and at
  commas.  What was put together with separators falls into the same pieces again, and no
  piece holds a separator.
-/
import RouteAudit.Text.Split

set_option autoImplicit false

namespace RouteAudit.Text

variable {sep : Char} {front back cs : List Char}

/-! ## The first separator -/

theorem splitOnce_of_not_mem (h : sep ∉ front) : splitOnce sep front = (front, none) := by
  induction front with
  | nil => rfl
  | cons c front ih =>
    rw [List.mem_cons, not_or] at h
    rw [splitOnce, if_neg (Ne.symm h.1), ih h.2]

theorem splitOnce_append (h : sep ∉ front) :
    splitOnce sep (front ++ sep :: back) = (front, some back) := by
  induction front with
  | nil => rw [List.nil_append, splitOnce, if_pos rfl]
  | cons c front ih =>
    rw [List.mem_cons, not_or] at h
    rw [List.cons_append, splitOnce, if_neg (Ne.symm h.1), ih h.2]

theorem not_mem_fst_splitOnce (sep : Char) (cs : List Char) : sep ∉ (splitOnce sep cs).1 := by
  induction cs with
  | nil => exact List.not_mem_nil
  | cons c cs ih =>
    rw [splitOnce]
    split
    · exact List.not_mem_nil
    · rename_i hc
      exact List.not_mem_cons_of_ne_of_not_mem (Ne.symm hc) ih

/-! ## All separators -/

theorem splitAll_eq_splitOn (sep : Char) (cs : List Char) : splitAll sep cs = cs.splitOn sep := by
  induction cs with
  | nil => rfl
  | cons c cs ih =>
    rw [splitAll, ih, List.splitOn_cons_eq_if_modifyHead]
    by_cases hc : c = sep
    · rw [if_pos hc, if_pos (beq_iff_eq.mpr hc)]
    · rw [if_neg hc, if_neg (mt beq_iff_eq.mp hc)]
      obtain ⟨piece, more, hpieces⟩ := List.exists_cons_of_ne_nil (List.splitOn_ne_nil sep cs)
      rw [hpieces]
      rfl

theorem exists_splitAll_eq_cons (sep : Char) (cs : List Char) :
    ∃ first others, splitAll sep cs = first :: others := by
  rw [splitAll_eq_splitOn]
  exact List.exists_cons_of_ne_nil (List.splitOn_ne_nil sep cs)

/-- The first piece and the others, each behind its separator, are all there is. -/
theorem eq_append_of_splitAll {first : List Char} {others : List (List Char)}
    (h : splitAll sep cs = first :: others) : cs = first ++ others.flatMap (sep :: ·) := by
  induction cs generalizing first others with
  | nil =>
    obtain ⟨rfl, rfl⟩ := List.cons.inj h
    rfl
  | cons c cs ih =>
    obtain ⟨piece, more, hpieces⟩ := exists_splitAll_eq_cons sep cs
    rw [splitAll, hpieces] at h
    split at h
    · rename_i hsep
      obtain ⟨rfl, rfl⟩ := List.cons.inj h
      rw [hsep, List.flatMap_cons, List.nil_append, List.cons_append, ← ih hpieces]
    · obtain ⟨rfl, rfl⟩ := List.cons.inj h
      rw [List.cons_append, ← ih hpieces]

/-- A separator parts the pieces before it from those after it. -/
theorem splitAll_append :
    splitAll sep (front ++ sep :: back) = splitAll sep front ++ splitAll sep back := by
  simp only [splitAll_eq_splitOn, List.splitOn_append_cons_self]

/-- Pieces without separators, put together with separators, are found again. -/
theorem splitAll_intercalate {pieces : List (List Char)} (h : ∀ piece ∈ pieces, sep ∉ piece)
    (hne : pieces ≠ []) : splitAll sep ([sep].intercalate pieces) = pieces := by
  rw [splitAll_eq_splitOn, List.splitOn_intercalate sep h hne]

theorem not_mem_of_mem_splitAll {piece : List Char} (h : piece ∈ splitAll sep cs) :
    sep ∉ piece := by
  induction cs generalizing piece with
  | nil =>
    rw [List.mem_singleton.mp h]
    exact List.not_mem_nil
  | cons c cs ih =>
    rw [splitAll] at h
    split at h
    · obtain rfl | h := List.mem_cons.mp h
      · exact List.not_mem_nil
      · exact ih h
    · rename_i hc
      split at h
      · rw [List.mem_singleton.mp h]
        exact List.not_mem_cons_of_ne_of_not_mem (Ne.symm hc) List.not_mem_nil
      · rename_i first more hpieces
        rw [hpieces] at ih
        obtain rfl | h := List.mem_cons.mp h
        · exact List.not_mem_cons_of_ne_of_not_mem (Ne.symm hc) (ih List.mem_cons_self)
        · exact ih (List.mem_cons_of_mem _ h)

end RouteAudit.Text
