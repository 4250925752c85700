/-
  Proofs/Text/Blank.lean --- trimming.

  WHAT THIS FILE IS FOR.  A trimmed text has nothing left to trim, and trimming does not look
  at anything of a character but whether it is blank.  Lowering ASCII capitals is one of the
  mappings that it does not notice.
-/
import Mathlib.Data.List.DropRight
import RouteAudit.Text.Blank

set_option autoImplicit false

namespace RouteAudit.Text

/-! ## Trimming twice -/

theorem trimEndChars_eq_rdropWhile (cs : List Char) : trimEndChars cs = cs.rdropWhile isBlank := rfl

/-- The blanks at the end are dropped without looking at the start. -/
theorem dropWhile_trimEndChars {cs : List Char} (h : cs.dropWhile isBlank = cs) :
    (trimEndChars cs).dropWhile isBlank = trimEndChars cs := by
  rw [List.dropWhile_eq_self_iff] at h ⊢
  intro hpos
  have hstart : trimEndChars cs <+: cs := List.rdropWhile_prefix isBlank cs
  have hlength := hstart.length_le
  rw [hstart.getElem hpos]
  exact h (Nat.lt_of_lt_of_le hpos hlength)

theorem trimChars_trimChars (cs : List Char) : trimChars (trimChars cs) = trimChars cs := by
  have hstart := dropWhile_trimEndChars (List.dropWhile_idempotent isBlank cs)
  unfold trimChars
  rw [hstart, trimEndChars_eq_rdropWhile, trimEndChars_eq_rdropWhile,
    List.rdropWhile_idempotent]

theorem trim_ofList (cs : List Char) : trim (String.ofList cs) = String.ofList (trimChars cs) := by
  rw [trim, String.toList_ofList]

/-- A text is trimmed exactly if its characters are. -/
theorem trim_eq_self_iff {s : String} : trim s = s ↔ trimChars s.toList = s.toList := by
  rw [trim, ← String.toList_inj, String.toList_ofList]

theorem trimChars_sublist (cs : List Char) : (trimChars cs).Sublist cs :=
  (List.rdropWhile_prefix isBlank _).sublist.trans (List.dropWhile_sublist isBlank)

/-- Characters may be mapped before or after trimming if blanks stay blank and others do not
become so. -/
theorem trimChars_map {f : Char → Char} (h : ∀ c, isBlank (f c) = isBlank c) (cs : List Char) :
    trimChars (cs.map f) = (trimChars cs).map f := by
  have hblank : isBlank ∘ f = isBlank := funext h
  unfold trimChars trimEndChars
  rw [List.dropWhile_map, hblank, ← List.map_reverse, List.dropWhile_map, hblank,
    List.map_reverse]

/-! ## Lower case -/

/-- A capital is lowered to the letter 32 places behind it, and nothing else is changed. -/
theorem toLower_cases (c : Char) :
    65 ≤ c.toNat ∧ c.toNat ≤ 90 ∧ c.toLower.toNat = c.toNat + 32 ∨
      (c.toNat < 65 ∨ 90 < c.toNat) ∧ c.toLower = c := by
  unfold Char.toLower
  split
  · rename_i hcapital
    have hlow : 65 ≤ c.val.toNat := hcapital.1
    have hhigh : c.val.toNat ≤ 90 := hcapital.2
    have hsum : (c.val + ('a'.val - 'A'.val)).toNat = (c.val.toNat + 32) % 2 ^ 32 := rfl
    refine .inl ⟨hlow, hhigh, ?_⟩
    show (c.val + ('a'.val - 'A'.val)).toNat = c.val.toNat + 32
    omega
  · rename_i hcapital
    have hnot : ¬ (65 ≤ c.val.toNat ∧ c.val.toNat ≤ 90) := hcapital
    refine .inr ⟨?_, rfl⟩
    show c.val.toNat < 65 ∨ 90 < c.val.toNat
    omega

theorem toLower_toLower (c : Char) : c.toLower.toLower = c.toLower := by
  rcases toLower_cases c with ⟨hlow, -, hlowered⟩ | ⟨-, hsame⟩
  · rcases toLower_cases c.toLower with ⟨-, hhigh, -⟩ | ⟨-, hsame⟩
    · omega
    · exact hsame
  · rw [hsame, hsame]

theorem isBlank_toLower (c : Char) : isBlank c.toLower = isBlank c := by
  rcases toLower_cases c with ⟨hlow, hhigh, hlowered⟩ | ⟨-, hsame⟩
  · have hletter : ∀ d : Char, 65 ≤ d.toNat → d.toNat ≤ 122 → isBlank d = false := by
      intro d hlow hhigh
      simp only [isBlank, blankRanges, List.any_cons, List.any_nil, Bool.or_false,
        Bool.or_eq_false_iff, Bool.and_eq_false_iff, decide_eq_false_iff_not]
      omega
    rw [hletter c hlow (by omega), hletter c.toLower (by omega) (by omega)]
  · rw [hsame]

end RouteAudit.Text
