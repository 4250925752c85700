/-
  Proofs/Statistic/Count.lean --- counts as floating-point numbers.

  WHAT THIS FILE IS FOR.  A count is reported as a floating-point number, and whoever reads
  the report asks whether it is positive.  It is if and only if the count is, however large
  the count: the nearest number may be infinite and is never zero.

  HOW IT GOES.  A number of the format is opened into sign, mantissa and exponent.  Rounding
  a whole number keeps its leading bit, because the least exponent of the format is out of
  reach; packing the result and opening it again keeps it positive.  A whole number is made
  in two ways, from a word or with more digits, and both end in this rounding.

  Main statement: `number_pos_iff`.
-/
import Mathlib
import RouteAudit.Statistic.Number

set_option autoImplicit false

namespace RouteAudit.Count

open Float.Model Float.Model.UnpackedFloat

/-- A positive number, and if it is finite one with an exponent that the format has. -/
inductive IsPositive : UnpackedFloat → Prop where
  | infinity : IsPositive (.infinity .positive)
  | finite {m : Nat} {e : Int} (h : 0 < m) (he : -1074 ≤ e) : IsPositive (.finite .positive m e h)

/-! ## Rounding -/

theorem mantissa_shiftRight (em : ExtendedMantissa) (k : Nat) :
    (em >>> k).mantissa = em.mantissa / 2 ^ k := by
  change (k.repeat ExtendedMantissa.shiftRightOne em).mantissa = _
  induction k with
  | zero => simp [Nat.repeat]
  | succ k ih =>
    rw [Nat.repeat, ExtendedMantissa.shiftRightOne, ih, Nat.div_div_eq_div_mul, Nat.pow_succ]

theorem mantissa_le_roundedMantissa (em : ExtendedMantissa) :
    em.mantissa ≤ em.roundedMantissa := by
  obtain ⟨m, _ | _, _ | _⟩ := em <;>
    simp [ExtendedMantissa.roundedMantissa, ExtendedMantissa.accuracy,
      Accuracy.roundToNearestEven]

/-- A mantissa is shifted to the bits that the format has, and its leading bit is kept. -/
theorem shiftToTargetExponent_spec {m : Nat} {e : Int} (hm : 0 < m) (he : -1074 ≤ m.log2 + e) :
    0 < (shiftToTargetExponent .binary64 m e .exact).1.mantissa ∧
      (shiftToTargetExponent .binary64 m e .exact).1.mantissa < 2 ^ 53 ∧
      -1074 ≤ (shiftToTargetExponent .binary64 m e .exact).2 := by
  obtain ⟨k, hk, htop, hbottom, hrange⟩ : ∃ k : Nat,
      (Format.binary64.targetExponent (totalExponent m e) - e).toNat = k ∧
        m.log2 ≤ k + 52 ∧ k ≤ m.log2 ∧ -1074 ≤ e + k := by
    have hbits : (Format.binary64.mantissaBits : Int) = 53 := rfl
    have hmin : Format.binary64.minExponent = -1074 := rfl
    refine ⟨_, rfl, ?_⟩
    rw [Format.targetExponent, totalExponent, hbits, hmin]
    omega
  simp only [shiftToTargetExponent, shiftToExponent, hk, mantissa_shiftRight]
  refine ⟨Nat.div_pos ?_ (Nat.two_pow_pos _), ?_, hrange⟩
  · calc 2 ^ k ≤ 2 ^ m.log2 := Nat.pow_le_pow_right (by omega) hbottom
      _ ≤ m := Nat.log2_self_le (Nat.ne_of_gt hm)
  · rw [Nat.div_lt_iff_lt_mul (Nat.two_pow_pos _), ← Nat.pow_add]
    calc m < 2 ^ (m.log2 + 1) := Nat.lt_log2_self
      _ ≤ 2 ^ (53 + k) := Nat.pow_le_pow_right (by omega) (by omega)

/-- What is rounded stays positive.  The mantissa is shifted twice, since rounding up may have
given it one more bit. -/
theorem exists_roundWithAccuracy {m : Nat} {e : Int} (hm : 0 < m) (he : -1074 ≤ m.log2 + e) :
    ∃ m' e', ∃ h : 0 < m', m' < 2 ^ 53 ∧ -1074 ≤ e' ∧
      roundWithAccuracy .binary64 .positive m e .exact = .finite .positive m' e' h := by
  obtain ⟨hm₁, -, he₁⟩ := shiftToTargetExponent_spec hm he
  rw [roundWithAccuracy]
  generalize shiftToTargetExponent .binary64 m e .exact = first at hm₁ he₁ ⊢
  obtain ⟨em, e₁⟩ := first
  have hround : 0 < em.roundedMantissa := Nat.lt_of_lt_of_le hm₁ (mantissa_le_roundedMantissa em)
  have hrange : -1074 ≤ em.roundedMantissa.log2 + e₁ := by
    dsimp only at he₁
    omega
  obtain ⟨hm₂, hlt, he₂⟩ := shiftToTargetExponent_spec hround hrange
  exact ⟨_, _, hm₂, hlt, he₂, dif_neg (Nat.ne_of_gt hm₂)⟩

/-! ## Packing -/

theorem unpackSign_packComponents (s : Sign) (e : BitVec 11) (m : BitVec 52) :
    unpackSign (packComponents .binary64 s e m) = s.toBitVec := by
  refine BitVec.eq_of_getLsbD_eq fun i hi => ?_
  obtain rfl : i = 0 := by omega
  simp only [unpackSign, packComponents, BitVec.getLsbD_cast, BitVec.getLsbD_extractLsb,
    BitVec.getLsbD_append]
  simp

theorem isPositive_unpack_packComponents {e : BitVec 11} {m : BitVec 52} (he : e ≠ -1#11)
    (hem : e ≠ 0#11 ∨ m ≠ 0#52) :
    IsPositive (UnpackedFloat.unpack .binary64 (packComponents .binary64 .positive e m)) := by
  have hbias : (Format.binary64.exponentBias : Int) = 1023 := rfl
  have hrange : -1074 ≤ (e.toNat : Int) - (1023 + (52 : Nat)) + 1 := by omega
  rw [UnpackedFloat.unpack]
  simp only [unpackMantissa_packComponents, unpackExponent_packComponents,
    unpackSign_packComponents, hbias]
  rw [if_neg he]
  by_cases hzero : e = 0#11
  · rw [if_pos hzero, dif_neg (hem.resolve_left (not_not_intro hzero))]
    exact .finite _ hrange
  · have hpos : e.toNat ≠ 0 := fun h => hzero (BitVec.eq_of_toNat_eq (by simpa using h))
    have hrange : -1074 ≤ (e.toNat : Int) - (1023 + (52 : Nat)) := by omega
    rw [if_neg hzero]
    exact .finite _ hrange

/-- A positive number is packed into one that is opened as positive again. -/
theorem isPositive_unpack_pack {m : Nat} {e : Int} (h : 0 < m) (hm : m < 2 ^ 53) (he : -1074 ≤ e) :
    IsPositive (Float.Model.pack (.finite .positive m e h)).unpack := by
  change IsPositive (UnpackedFloat.unpack .binary64 (UnpackedFloat.pack .binary64 _))
  have hbias : (Format.binary64.exponentBias : Int) = 1023 := rfl
  have hbits : Format.binary64.mantissaBits = 53 := rfl
  rw [UnpackedFloat.pack]
  simp only [hbias, hbits]
  split
  · exact .infinity
  · rename_i hfits
    have hexp : (BitVec.ofNat 11 (e + 1023 + (52 : Nat)).toNat).toNat = (e + 1075).toNat := by
      rw [BitVec.toNat_ofNat, Nat.mod_eq_of_lt (by omega)]
      omega
    split
    · have hmost : (-1#11).toNat = 2047 := rfl
      have hleast : (0#11).toNat = 0 := rfl
      refine isPositive_unpack_packComponents (fun heq => ?_) (.inl fun heq => ?_)
      · rw [heq, hmost] at hexp
        omega
      · rw [heq, hleast] at hexp
        omega
    · -- a mantissa that lacks the leading bit is written with the exponent zero
      rename_i hsmall
      have hlog : m.log2 < 53 := (Nat.log2_lt (Nat.ne_of_gt h)).2 hm
      have hm : m < 2 ^ 52 := (Nat.log2_lt (Nat.ne_of_gt h)).1 (by omega)
      refine isPositive_unpack_packComponents (by decide) (.inr fun heq => ?_)
      have hmantissa : (BitVec.ofNat 52 m).toNat = 0 := congrArg BitVec.toNat heq
      rw [BitVec.toNat_ofNat, Nat.mod_eq_of_lt hm] at hmantissa
      omega

theorem isPositive_pack_roundWithAccuracy {m : Nat} {e : Int} (hm : 0 < m)
    (he : -1074 ≤ m.log2 + e) :
    IsPositive (Float.Model.pack (roundWithAccuracy .binary64 .positive m e .exact)).unpack := by
  obtain ⟨m', e', hpos, hlt, hle, hround⟩ := exists_roundWithAccuracy hm he
  rw [hround]
  exact isPositive_unpack_pack hpos hlt hle

/-! ## Whole numbers -/

theorem isPositive_toFloat {w : UInt64} (h : 0 < w.toNat) :
    IsPositive w.toFloat.toModel.unpack := by
  change IsPositive (Float.Model.pack (UnpackedFloat.ofNat .binary64 w.toNat)).unpack
  generalize w.toNat = n at h
  have hcompare : compare (n : Int) 0 = .gt := Int.compare_eq_gt.2 (by omega)
  have hmin : Format.binary64.minExponent = -1074 := rfl
  rw [UnpackedFloat.ofNat, UnpackedFloat.ofInt, UnpackedFloat.normalize, hcompare]
  simp only [UnpackedFloat.round, Int.toNat_natCast, decreaseExponent]
  refine isPositive_pack_roundWithAccuracy ?_ ?_
  · rw [Nat.shiftLeft_eq]
    exact Nat.mul_pos h (Nat.two_pow_pos _)
  · rw [Format.targetExponent, hmin]
    omega

theorem isPositive_mul_one {u : UnpackedFloat} (hu : IsPositive u) (h : 0 < 2 ^ 52) :
    IsPositive (Float.Model.pack
      (UnpackedFloat.mul .binary64 u (.finite .positive (2 ^ 52) (-52) h))).unpack := by
  cases hu with
  | infinity =>
    have hinfinity : (Float.Model.pack (.infinity .positive)).unpack = .infinity .positive := rfl
    exact hinfinity ▸ .infinity
  | @finite m e hpos he =>
    refine isPositive_pack_roundWithAccuracy (Nat.mul_pos hpos (Nat.two_pow_pos _)) ?_
    have hlog : m.log2 + 52 ≤ (m * 2 ^ 52).log2 := by
      rw [Nat.le_log2 (Nat.ne_of_gt (Nat.mul_pos hpos (Nat.two_pow_pos _))), Nat.pow_add]
      exact Nat.mul_le_mul_right _ (Nat.log2_self_le (Nat.ne_of_gt hpos))
    omega

theorem ofScientific_of_pos {n : Nat} (hn : 0 < n) :
    Float.Model.ofScientific n 0 =
      Float.Model.pack (roundWithAccuracy .binary64 .positive (n <<< 53) (-53) .exact) := by
  have hbits : Format.binary64.mantissaBits = 53 := rfl
  have hexponent : Format.binary64.exponentBits = 11 := rfl
  rw [Float.Model.ofScientific, UnpackedFloat.ofScientific, dif_neg (Nat.ne_of_gt hn), hexponent,
    if_neg (by omega), if_neg (by omega), if_pos (by omega)]
  have hpower : n <<< 53 * 10 ^ Int.toNat 0 = n <<< 53 := Nat.mul_one _
  simp only [hbits, UnpackedFloat.mul, hpower]
  rfl

theorem isPositive_ofNat {n : Nat} (hn : 0 < n) : IsPositive (Float.ofNat n).toModel.unpack := by
  change IsPositive (Float.ofScientific n false 0).toModel.unpack
  rw [Float.ofScientific]
  by_cases hsmall : n < 2 ^ 53 ∧ 0 ≤ 22
  · rw [dif_pos hsmall]
    have hword : n.toUInt64.toNat = n := Nat.mod_eq_of_lt (by omega)
    have hone : Float.exactlyRepresentablePowersOfTen[0].toModel.unpack =
        .finite .positive (2 ^ 52) (-52) (by decide) := rfl
    change IsPositive (Float.Model.pack (UnpackedFloat.mul .binary64
      n.toUInt64.toFloat.toModel.unpack
      Float.exactlyRepresentablePowersOfTen[0].toModel.unpack)).unpack
    rw [hone]
    exact isPositive_mul_one (isPositive_toFloat (by omega)) _
  · rw [dif_neg hsmall]
    change IsPositive (Float.Model.ofScientific n 0).unpack
    rw [ofScientific_of_pos hn]
    refine isPositive_pack_roundWithAccuracy ?_ (by omega)
    rw [Nat.shiftLeft_eq]
    exact Nat.mul_pos hn (Nat.two_pow_pos _)

theorem pos_of_isPositive {x : Float} (h : IsPositive x.toModel.unpack) : 0 < x := by
  have hzero : (0 : Float).toModel.unpack = .zero .positive := rfl
  refine decide_eq_true ?_
  change ((0 : Float).toModel.unpack.compare x.toModel.unpack == some .lt) = true
  rw [hzero]
  generalize x.toModel.unpack = u at h
  cases h <;> rfl

/-- The floating-point number for a count is positive if and only if the count is. -/
theorem number_pos_iff (n : Nat) : (0 : Float) < number (n : Int) ↔ 0 < n := by
  constructor
  · intro h
    rcases Nat.eq_zero_or_pos n with rfl | hn
    · exact absurd h (by decide)
    · exact hn
  · intro hn
    exact pos_of_isPositive (isPositive_ofNat hn)

end RouteAudit.Count
