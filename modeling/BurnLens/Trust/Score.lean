import BurnLens.Trust.Engine

/-! # Bounds and order of the trust score

The score of an agent lies between 0 and 100, better evidence does not lower it, and the highest
level is for scores that round to 80 at least.
-/

namespace BurnLens.Trust

open Library hiding lower

theorem clamp_nonneg (bound x : ℚ) : 0 ≤ clamp bound x := le_max_left 0 _

theorem clamp_le {bound : ℚ} (nonneg : 0 ≤ bound) (x : ℚ) : clamp bound x ≤ bound :=
  max_le nonneg (min_le_left bound x)

theorem clamp_mono (bound : ℚ) {x y : ℚ} (le : x ≤ y) : clamp bound x ≤ clamp bound y :=
  max_le_max le_rfl (min_le_min le_rfl le)

/-! ## The score -/

namespace Evidence

/-- `e'` is no worse than `e` in any rate, over as many tasks. -/
structure NoBetter (e e' : Evidence) : Prop where
  tasks : e.totalTasks = e'.totalTasks
  success : e.taskSuccessRate ≤ e'.taskSuccessRate
  accepted : e.acceptedOutcomeRate ≤ e'.acceptedOutcomeRate
  rollback : e'.rollbackRate ≤ e.rollbackRate
  violation : e'.policyViolationRate ≤ e.policyViolationRate
  waste : e'.wasteRatio ≤ e.wasteRatio

variable {e e' : Evidence}

theorem NoBetter.rawScore_le (worse : e.NoBetter e') : e.rawScore ≤ e'.rawScore := by
  have success := clamp_mono 1 worse.success
  have accepted := clamp_mono 1 worse.accepted
  have rollback := clamp_mono 1 worse.rollback
  have violation := clamp_mono 1 worse.violation
  have waste := clamp_mono 1 worse.waste
  apply clamp_mono
  simp only [outcomePoints, successPoints, violationPoints, rollbackPoints, wastePoints]
  linarith

theorem confidence_bounds (counted : 0 ≤ e.totalTasks) (sparse : e.isSparse = true) :
    (0 : ℚ) ≤ e.totalTasks / minimumTaskHistoryThreshold ∧
      (e.totalTasks : ℚ) / minimumTaskHistoryThreshold ≤ 1 := by
  have few : e.totalTasks < minimumTaskHistoryThreshold := of_decide_eq_true sparse
  rw [minimumTaskHistoryThreshold] at few ⊢
  have low : (0 : ℚ) ≤ e.totalTasks := by exact_mod_cast counted
  have high : (e.totalTasks : ℚ) ≤ 10 := by exact_mod_cast few.le
  constructor
  · positivity
  · rw [div_le_one (by norm_num)]
    exact_mod_cast high

theorem NoBetter.effectiveScore_le (worse : e.NoBetter e') (counted : 0 ≤ e.totalTasks) :
    e.effectiveScore ≤ e'.effectiveScore := by
  have raw := worse.rawScore_le
  have same : e.isSparse = e'.isSparse := by rw [isSparse, isSparse, worse.tasks]
  rw [effectiveScore, effectiveScore, ← same, ← worse.tasks]
  split
  · next sparse =>
    apply roundTo_mono
    have weighted := mul_le_mul_of_nonneg_right raw (confidence_bounds counted sparse).1
    linarith
  · exact roundTo_mono raw

theorem effectiveScore_bounds (counted : 0 ≤ e.totalTasks) :
    0 ≤ e.effectiveScore ∧ e.effectiveScore ≤ 100 := by
  have low : 0 ≤ e.rawScore := clamp_nonneg 100 _
  have high : e.rawScore ≤ 100 := clamp_le (by norm_num) _
  have bounds : ∀ x : ℚ, 0 ≤ x → x ≤ 100 → 0 ≤ roundTo 1 x ∧ roundTo 1 x ≤ 100 := by
    have zero : roundTo 1 0 = 0 := by decide +kernel
    have hundred : roundTo 1 100 = 100 := by decide +kernel
    intro x nonneg atMost
    exact ⟨zero.symm.trans_le (roundTo_mono nonneg), (roundTo_mono atMost).trans_eq hundred⟩
  rw [effectiveScore]
  split
  · next sparse =>
    obtain ⟨nonneg, atMost⟩ := confidence_bounds counted sparse
    have weighted := mul_nonneg low nonneg
    have scaled := mul_le_mul_of_nonneg_right high nonneg
    apply bounds
    · rw [sparseHistoryPriorScore]
      linarith
    · rw [sparseHistoryPriorScore]
      linarith
  · exact bounds _ low high

theorem enough_iff : e.isSparse = false ↔ 10 ≤ e.totalTasks := by
  rw [isSparse, decide_eq_false_iff_not, not_lt]
  rfl

theorem earned_iff_reported : e.autonomyLevel = .earnedAutonomy ↔
    10 ≤ e.totalTasks ∧ 80 ≤ e.effectiveScore := by
  rw [← enough_iff, autonomyLevel]
  cases sparse : e.isSparse with
  | true => simp
  | false =>
    by_cases standard : e.effectiveScore < 80
    · have low : ¬ 80 ≤ e.effectiveScore := not_le.mpr standard
      split_ifs <;> simp [low]
    · have high := not_lt.mp standard
      have notRestricted : ¬ (false = true ∨ e.effectiveScore < 50) := by
        rintro (never | low)
        · cases never
        · linarith
      rw [if_neg notRestricted, if_neg standard]
      simp [high]

theorem eighty_le_iff (x : ℚ) : 80 ≤ roundTo 1 x ↔ 79.95 ≤ x := by
  have tie := le_roundHalfEven_iff (n := 800) (by decide) (x * 10 ^ 1)
  have scaled : (80 : ℚ) ≤ roundTo 1 x ↔ 800 ≤ roundHalfEven (x * 10 ^ 1) := by
    rw [roundTo, le_div_iff₀ (by norm_num), ← Int.cast_le (R := ℚ)]
    norm_num
  rw [scaled, tie]
  constructor <;> intro le <;> norm_num at le ⊢ <;> linarith

theorem earned_iff : e.autonomyLevel = .earnedAutonomy ↔
    10 ≤ e.totalTasks ∧ 79.95 ≤ e.rawScore := by
  rw [earned_iff_reported, ← eighty_le_iff]
  apply and_congr_right
  intro enough
  have full : ¬ e.isSparse = true := Bool.eq_false_iff.mp (enough_iff.mpr enough)
  rw [effectiveScore, if_neg full]

end Evidence

/-- Scores of counts of tasks: bounds, order and the highest level. -/
theorem trust_score_gates :
    (∀ e : Evidence, 0 ≤ e.totalTasks →
      0 ≤ e.calculateScore.trustScore ∧ e.calculateScore.trustScore ≤ 100) ∧
    (∀ e e' : Evidence, 0 ≤ e.totalTasks → e.NoBetter e' →
      e.calculateScore.trustScore ≤ e'.calculateScore.trustScore) ∧
    ∀ e : Evidence,
      (e.calculateScore.autonomyLevel = .earnedAutonomy ↔
        10 ≤ e.totalTasks ∧ 79.95 ≤ e.rawScore) ∧
      (e.calculateScore.autonomyLevel = .earnedAutonomy ↔
        10 ≤ e.totalTasks ∧ 80 ≤ e.calculateScore.trustScore) :=
  ⟨fun _ counted => Evidence.effectiveScore_bounds counted,
    fun _ _ counted worse => worse.effectiveScore_le counted,
    fun _ => ⟨Evidence.earned_iff, Evidence.earned_iff_reported⟩⟩

/-- Evidence whose score is 79.96 before it is rounded. -/
def nearlyEarned : Evidence := ⟨"agent", "workspace", 1, 374 / 875, 0, 0, 0, 50, 0⟩

/-- A score that is rounded up to 80, and one of a negative count of tasks. -/
theorem rounded_and_negative :
    nearlyEarned.rawScore < 80 ∧ nearlyEarned.calculateScore.autonomyLevel = .earnedAutonomy ∧
      Evidence.effectiveScore { nearlyEarned with totalTasks := -10 } < 0 := by
  decide +kernel

theorem nearlyEarned_gates :
    nearlyEarned.calculateScore.trustScore ≤ 100 ∧
      nearlyEarned.calculateScore.trustScore ≤
        Evidence.effectiveScore { nearlyEarned with acceptedOutcomeRate := 1 } ∧
      nearlyEarned.calculateScore.autonomyLevel = .earnedAutonomy ∧
      80 ≤ nearlyEarned.calculateScore.trustScore :=
  have earned := (trust_score_gates.2.2 nearlyEarned).1.mpr ⟨by decide, by decide +kernel⟩
  ⟨(trust_score_gates.1 nearlyEarned (by decide)).2,
    trust_score_gates.2.1 nearlyEarned { nearlyEarned with acceptedOutcomeRate := 1 } (by decide)
      ⟨rfl, le_rfl, by decide +kernel, le_rfl, le_rfl, le_rfl⟩,
    earned, ((trust_score_gates.2.2 nearlyEarned).2.mp earned).2⟩

end BurnLens.Trust
