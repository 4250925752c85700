/-
  Proofs/Syntax/Name.lean --- namespaced names up to case.

  WHAT THIS FILE IS FOR.  Class names are compared without regard to ASCII case, and a
  comparison looks at the whole name or at its last segment.  Both ways of looking at a
  name give the same answer for names that differ only in case; that is what allows one
  spelling of a class to stand for all of them.
-/
import Mathlib.Data.List.TakeWhile
import RouteAudit.Syntax.Name

set_option autoImplicit false

namespace RouteAudit.Syntax

/-! ## An equivalence -/

theorem sameName_iff {a b : String} : sameName a b = true ↔ foldCase a = foldCase b := by
  simp [sameName]

theorem sameName_symm {a b : String} (h : sameName a b = true) : sameName b a = true :=
  sameName_comm a b ▸ h

theorem sameName_trans {a b c : String} (hab : sameName a b = true)
    (hbc : sameName b c = true) : sameName a c = true := by
  rw [sameName_iff] at *
  exact hab.trans hbc

/-- Equal names stand for each other on the right of a comparison. -/
theorem sameName_congr_right {a b : String} (h : sameName a b = true) (name : String) :
    sameName name a = sameName name b := by
  rw [Bool.eq_iff_iff]
  exact ⟨fun hn => sameName_trans hn h, fun hn => sameName_trans hn (sameName_symm h)⟩

/-! ## Segments -/

/-- Lowering a character neither makes nor removes a separator. -/
theorem toLower_eq_separator_iff (c : Char) : c.toLower = separator ↔ c = separator := by
  unfold Char.toLower
  split
  · rename_i hcapital
    -- A capital is lowered to a code between 97 and 122; the separator has code 92.
    have hlow : 65 ≤ c.val.toNat := hcapital.1
    have hhigh : c.val.toNat ≤ 90 := hcapital.2
    constructor
    · intro h
      have hval : c.val + 32 = 92 := congrArg Char.val h
      have hsum : (c.val.toNat + 32) % 2 ^ 32 = 92 := congrArg UInt32.toNat hval
      omega
    · rintro rfl
      exact absurd hhigh (by decide)
  · rfl

theorem toList_foldCase (name : String) :
    (foldCase name).toList = name.toList.map Char.toLower := by
  simp [foldCase]

/-- The last segment of a name with its capitals lowered is that of the name, lowered. -/
theorem lastSegment_map_toLower (cs : List Char) :
    lastSegment (cs.map Char.toLower) = (lastSegment cs).map Char.toLower := by
  have hstop : ∀ c : Char, (decide (c.toLower ≠ separator)) = decide (c ≠ separator) := by
    intro c
    simp [toLower_eq_separator_iff]
  unfold lastSegment
  rw [← List.map_reverse, List.takeWhile_map, ← List.map_reverse]
  congr 3
  funext c
  exact hstop c

theorem foldCase_shortName (name : String) :
    foldCase (shortName name) = shortName (foldCase name) := by
  unfold shortName
  rw [toList_foldCase, lastSegment_map_toLower]
  simp [foldCase]

/-- Names that are equal have equal last segments. -/
theorem shortName_congr {a b : String} (h : sameName a b = true) :
    sameName (shortName a) (shortName b) = true := by
  rw [sameName_iff] at *
  rw [foldCase_shortName, foldCase_shortName, h]

theorem isNamespaced_foldCase (name : String) :
    isNamespaced (foldCase name) = isNamespaced name := by
  unfold isNamespaced
  rw [toList_foldCase, Bool.eq_iff_iff]
  simp [toLower_eq_separator_iff]

/-- Of two equal names either both hold a separator or neither does. -/
theorem isNamespaced_congr {a b : String} (h : sameName a b = true) :
    isNamespaced a = isNamespaced b := by
  rw [sameName_iff] at h
  rw [← isNamespaced_foldCase a, h, isNamespaced_foldCase]

/-- A name without a separator is its own last segment. -/
theorem shortName_of_not_namespaced {name : String} (h : isNamespaced name = false) :
    shortName name = name := by
  have hnone : ∀ c ∈ name.toList.reverse, decide (c ≠ separator) = true := by
    intro c hc
    have hne : c ≠ separator := by
      rintro rfl
      simp [isNamespaced] at h
      exact h (List.mem_reverse.1 hc)
    simpa using hne
  unfold shortName lastSegment
  rw [List.takeWhile_eq_self_iff.2 hnone]
  simp

end RouteAudit.Syntax
