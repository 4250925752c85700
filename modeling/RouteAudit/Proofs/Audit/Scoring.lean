/-
  Proofs/Audit/Scoring.lean --- what a count is worth.

  WHAT THIS FILE IS FOR.  An auditor brings count times weight into the range of a word before
  it looks at the limit.  Here the score is compared with what a count is worth in numbers
  without bounds: that number, brought into the range once and at the end, is the score.  So
  no sign of the weight or the limit and no product out of the range makes a difference.

  Main statement: `score_exact`.
-/
import RouteAudit.Audit.Auditor

set_option autoImplicit false

namespace RouteAudit.Auditor

/-- What a count is worth in numbers without bounds: count times weight, up to the limit. -/
def worth (a : Auditor) (count : Int) : Int :=
  match a.limit with
  | some limit => min limit (count * a.weight)
  | none => count * a.weight

variable {a : Auditor}

theorem worth_of_limit {limit : Int} (h : a.limit = some limit) (count : Int) :
    a.worth count = min limit (count * a.weight) := by
  simp only [worth, h]

theorem worth_of_unlimited (h : a.limit = none) (count : Int) :
    a.worth count = count * a.weight := by
  simp only [worth, h]

/-- Where more counts for more, more counts are worth as much or more. -/
theorem worth_mono (h : 0 ≤ a.weight) {m n : Int} (hle : m ≤ n) : a.worth m ≤ a.worth n := by
  have hproduct : m * a.weight ≤ n * a.weight := Int.mul_le_mul_of_nonneg_right hle h
  cases hlimit : a.limit with
  | none => rwa [worth_of_unlimited hlimit, worth_of_unlimited hlimit]
  | some limit =>
    rw [worth_of_limit hlimit, worth_of_limit hlimit]
    omega

theorem score_zero (a : Auditor) : a.score 0 = a.penalty := if_pos rfl

/-- The range is entered before the limit is looked at, and might as well be after it. -/
theorem score_of_ne_zero (hlimit : ∀ limit ∈ a.limit, Word.fits limit = true) {count : Int}
    (h : count ≠ 0) : a.score count = Word.clamp (a.worth count) := by
  rw [score, if_neg h]
  cases hcap : a.limit with
  | none => rw [worth_of_unlimited hcap]
  | some limit =>
    rw [worth_of_limit hcap]
    exact Word.min_clamp (hlimit limit hcap) _

/-- The score of a count of zero is the penalty as it is; that of any other count is what the
count is worth, brought into the range of a word, in which limits lie.  Unless the weight is
negative, of positive counts the greater has no lesser score, and no count but zero gets more
than the limit. -/
theorem score_exact (a : Auditor) (hlimit : ∀ limit ∈ a.limit, Word.fits limit = true) :
    a.score 0 = a.penalty ∧
    (∀ count ≠ 0, a.score count = Word.clamp (a.worth count)) ∧
    (0 ≤ a.weight → ∀ m n, 1 ≤ m → m ≤ n → a.score m ≤ a.score n) ∧
    ∀ count ≠ 0, ∀ limit ∈ a.limit, a.score count ≤ limit := by
  refine ⟨a.score_zero, fun count => score_of_ne_zero hlimit, ?_, ?_⟩
  · intro hweight m n hm hle
    have hm' : m ≠ 0 := by omega
    have hn' : n ≠ 0 := by omega
    rw [score_of_ne_zero hlimit hm', score_of_ne_zero hlimit hn']
    exact Word.clamp_mono (worth_mono hweight hle)
  · intro count hcount limit hcap
    have hworth : a.worth count ≤ limit := by
      rw [worth_of_limit hcap]
      exact Int.min_le_left _ _
    calc a.score count = Word.clamp (a.worth count) := score_of_ne_zero hlimit hcount
      _ ≤ Word.clamp limit := Word.clamp_mono hworth
      _ = limit := Word.clamp_of_fits (hlimit limit hcap)

/-- An auditor with the greatest weight and a limit that is negative. -/
def sample : Auditor where
  rule := ⟨"fixed", fun _ => 2⟩
  weight := Word.greatest
  penalty := -100
  limit := some (-5)

theorem score_exact_sample :
    (∀ limit ∈ sample.limit, Word.fits limit = true) ∧ sample.score 0 = -100 ∧
      sample.score (-2) = Word.least ∧ sample.score 2 = -5 ∧ sample.score 2 ≤ sample.score 3 := by
  have hlimit : ∀ limit ∈ sample.limit, Word.fits limit = true := by decide
  obtain ⟨hzero, hcount, hmono, -⟩ := score_exact sample hlimit
  refine ⟨hlimit, hzero, (hcount (-2) (by decide)).trans (by decide),
    (hcount 2 (by decide)).trans (by decide), hmono (by decide) 2 3 (by decide) (by decide)⟩

end RouteAudit.Auditor
