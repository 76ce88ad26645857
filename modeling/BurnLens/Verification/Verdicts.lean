import BurnLens.Verification.Engine
import Mathlib.Tactic.Linarith
import Mathlib.Tactic.FieldSimp

/-! # What a PASS certifies

The baseline's cost and the two acceptance rates are rounded to four decimals before they are
compared, and the saving after it.  A verdict is exact about the rounded figures; about the
figures that the calls were given it is exact up to these roundings.
-/

namespace BurnLens.Verification

open Library

variable {h : Hashing} {store store' : VerificationStore} {b : Baseline} {o : Observation}

namespace Baseline

variable (b : Baseline)

def unitCost : Usd := b.baselineCostUsd / b.baselineRequests

def outcomeRate : ℚ := b.baselineAcceptedOutcomes / b.baselineRequests

end Baseline

namespace Observation

variable (o : Observation) (b : Baseline)

/-- What the observed requests would have cost before, less what they cost. -/
def exactSaving : Usd := (b.unitCost - o.postUnitCost) * o.postChangeRequests

def outcomeRate : ℚ := o.postChangeAcceptedOutcomes / o.postChangeRequests

def exactDrop : ℚ := b.outcomeRate - o.outcomeRate

/-- Enough samples, and the comparison of the recorded figures. -/
structure Passes : Prop where
  sampled : o.minSampleSize ≤ o.postChangeRequests
  quality : roundTo 4 b.outcomeRate - roundTo 4 o.outcomeRate ≤ o.maxTolerableQualityDrop
  saved : 1 / 2 / 10 ^ 4 <
    (roundTo 4 b.baselineCostUsd / b.baselineRequests - o.postUnitCost) * o.postChangeRequests

end Observation

/-! ## The calls -/

theorem recordBaseline_ran {snapshot : BaselineSnapshot}
    (recorded : (recordBaseline b).run h.handle store = .ok (store', snapshot)) :
    0 < b.baselineRequests ∧ snapshot = b.snapshot ∧ storable b.baselineRequests = true ∧
      store'.snapshots = insertOrReplace SnapshotRow.clashes store.snapshots (h.row b.snapshot) := by
  rw [recordBaseline] at recorded
  split at recorded
  · cases recorded
  · next positive =>
    simp only [Program.perform_bind, Program.pure_eq, Program.run, Hashing.handle] at recorded
    split at recorded
    · next answered =>
      split at answered
      · next fits =>
        cases answered
        cases recorded
        exact ⟨by omega, rfl, fits.1, rfl⟩
      · cases answered
    · cases recorded

theorem roundsToNegativeZero_of_nonneg {x : ℚ} (nonneg : 0 ≤ x) : roundsToNegativeZero x = false := by
  simp [roundsToNegativeZero, not_lt.mpr nonneg]

/-- A cost and a count that are not negative are read back as they were recorded. -/
theorem snapshot_asRead (cost : 0 ≤ b.baselineCostUsd) (accepted : 0 ≤ b.baselineAcceptedOutcomes)
    (requests : 0 < b.baselineRequests) (plain : b.negativeZeroCost = false) :
    b.snapshot.asRead = b.snapshot := by
  have rate : (0 : ℚ) ≤ b.baselineAcceptedOutcomes / b.baselineRequests :=
    div_nonneg (Int.cast_nonneg accepted) (Int.cast_nonneg requests.le)
  simp [BaselineSnapshot.asRead, Baseline.snapshot, roundsToNegativeZero_of_nonneg, cost, rate, plain]

/-- A recorded baseline is found by its recommendation and workspace. -/
theorem recordBaseline_found {snapshot : BaselineSnapshot}
    (recorded : (recordBaseline b).run h.handle store = .ok (store', snapshot))
    (same : snapshot.asRead = snapshot) :
    h.getBaselineSnapshot store' b.recommendationId b.workspaceId = .ok (some snapshot) := by
  obtain ⟨-, rfl, -, saved⟩ := recordBaseline_ran recorded
  have its : (h.row b.snapshot).isOf b.recommendationId b.workspaceId = true := by
    simp [SnapshotRow.isOf, Hashing.row, BaselineSnapshot.asRead, Baseline.snapshot]
  rw [Hashing.getBaselineSnapshot, saved, find?_insertOrReplace_self its]
  · simp only [Hashing.row, same]
    exact if_neg (fun tampered => tampered rfl)
  · intro other _ keyed
    simp only [SnapshotRow.isOf, decide_eq_true_eq] at keyed
    simp [SnapshotRow.clashes, Hashing.row, BaselineSnapshot.asRead, Baseline.snapshot, keyed]

/-- What `verify_savings` does with the baseline that it finds. -/
theorem verifySavings_run {baseline : BaselineSnapshot} {record : SavingsVerificationRecord}
    (found : h.getBaselineSnapshot store o.recommendationId o.workspaceId = .ok (some baseline))
    (certified : o.certify h baseline = .ok record) :
    (verifySavings h o).run h.handle store =
      if storable record.sampleCountBaseline ∧ storable record.sampleCountPostChange then
        .ok ({ store with
            records := insertOrReplace SavingsVerificationRecord.clashes store.records record }, record)
      else .error integerOverflow := by
  simp only [verifySavings, Program.perform_bind, Program.run, Hashing.handle, found, Except.map,
    certified, Program.pure_eq]
  by_cases fits : storable record.sampleCountBaseline = true ∧
      storable record.sampleCountPostChange = true
  · simp [fits]
  · simp [fits]

/-! ## The verdict -/

theorem qualityChange_snapshot : o.qualityChange b.snapshot =
    roundTo 4 o.outcomeRate - roundTo 4 b.outcomeRate :=
  roundTo_sub_roundTo 4 o.outcomeRate b.outcomeRate

theorem verdict_pass : (o.verdict b.snapshot).1 = .pass ↔
    roundTo 4 b.outcomeRate - roundTo 4 o.outcomeRate ≤ o.maxTolerableQualityDrop ∧
      1 / 2 / 10 ^ 4 < (roundTo 4 b.baselineCostUsd / b.baselineRequests - o.postUnitCost) *
        o.postChangeRequests := by
  have quality : o.qualityChange b.snapshot < -o.maxTolerableQualityDrop ↔
      ¬ roundTo 4 b.outcomeRate - roundTo 4 o.outcomeRate ≤ o.maxTolerableQualityDrop := by
    rw [qualityChange_snapshot, not_le]
    constructor
    · intro below
      linarith
    · intro above
      linarith
  have saving : o.actualSavingUsd b.snapshot ≤ 0 ↔ ¬ 1 / 2 / 10 ^ 4 <
      (roundTo 4 b.baselineCostUsd / b.baselineRequests - o.postUnitCost) * o.postChangeRequests := by
    rw [← roundTo_pos_iff, not_lt]
    rfl
  rw [Observation.verdict]
  split
  · next degraded => exact iff_of_false (by simp) fun passes => quality.mp degraded passes.1
  · next kept =>
    split
    · next lost => exact iff_of_false (by simp) fun passes => saving.mp lost passes.2
    · next saved =>
      rw [quality, not_not] at kept
      rw [saving, not_not] at saved
      exact iff_of_true rfl ⟨kept, saved⟩

/-- The verdict is PASS where there are enough samples and the recorded figures pass. -/
theorem certify_pass (positive : 0 < b.baselineRequests) (sampled : 0 < o.minSampleSize) :
    ∃ record, o.certify h b.snapshot = .ok record ∧
      record.sampleCountBaseline = b.baselineRequests ∧
      record.sampleCountPostChange = o.postChangeRequests ∧
      (record.verdict = .pass ↔ o.Passes b) := by
  have counted : b.snapshot.baselineRequests = b.baselineRequests := rfl
  rw [Observation.certify, counted]
  split
  · next few =>
    rw [if_neg (by omega)]
    have never : ¬ o.Passes b := by
      intro passes
      have := passes.sampled
      omega
    exact ⟨_, rfl, rfl, rfl, by simp [Observation.inconclusive, never]⟩
  · next enough =>
    rw [if_neg (by omega)]
    refine ⟨_, rfl, rfl, rfl, verdict_pass.trans ?_⟩
    constructor
    · intro passes
      exact ⟨by omega, passes.1, passes.2⟩
    · intro passes
      exact ⟨passes.quality, passes.saved⟩

/-! ## Up to the roundings -/

section

/-- What the rounding of the baseline's cost is worth in the observed requests. -/
def roundingOf (b : Baseline) (o : Observation) : Usd :=
  1 / 2 / 10 ^ 4 / b.baselineRequests * o.postChangeRequests

theorem abs_saving_sub_le (positive : 0 < b.baselineRequests) (observed : 0 < o.postChangeRequests) :
    |(roundTo 4 b.baselineCostUsd / b.baselineRequests - o.postUnitCost) * o.postChangeRequests -
      o.exactSaving b| ≤ roundingOf b o := by
  have near := abs_roundTo_sub_le 4 b.baselineCostUsd
  have baseline : (0 : ℚ) < b.baselineRequests := by exact_mod_cast positive
  have observation : (0 : ℚ) < o.postChangeRequests := by exact_mod_cast observed
  have apart : (roundTo 4 b.baselineCostUsd / b.baselineRequests - o.postUnitCost) *
      o.postChangeRequests - o.exactSaving b =
        (roundTo 4 b.baselineCostUsd - b.baselineCostUsd) / b.baselineRequests *
          o.postChangeRequests := by
    rw [Observation.exactSaving, Baseline.unitCost]
    ring
  rw [apart, abs_mul, abs_div, abs_of_pos baseline, abs_of_pos observation, roundingOf]
  gcongr

theorem abs_drop_sub_le (b : Baseline) (o : Observation) :
    |roundTo 4 b.outcomeRate - roundTo 4 o.outcomeRate - o.exactDrop b| ≤ 1 / 10 ^ 4 := by
  have before := abs_le.mp (abs_roundTo_sub_le 4 b.outcomeRate)
  have after := abs_le.mp (abs_roundTo_sub_le 4 o.outcomeRate)
  rw [Observation.exactDrop, abs_le]
  norm_num at before after ⊢
  exact ⟨by linarith, by linarith⟩

/-- Where the observed requests are no more than the baseline's, the rounding is worth no more than
    half of the last decimal. -/
theorem roundingOf_le (observed : 0 < o.postChangeRequests)
    (fewer : o.postChangeRequests ≤ b.baselineRequests) : roundingOf b o ≤ 1 / 2 / 10 ^ 4 := by
  have baseline : (0 : ℚ) < b.baselineRequests := by exact_mod_cast observed.trans_le fewer
  have order : (o.postChangeRequests : ℚ) ≤ b.baselineRequests := by exact_mod_cast fewer
  rw [roundingOf, div_mul_eq_mul_div, div_le_iff₀ baseline]
  gcongr

/-- What a verdict says of the exact figures. -/
structure Certifies (b : Baseline) (o : Observation) (verdict : VerificationVerdict) : Prop where
  recorded : verdict = .pass ↔ o.Passes b
  saved : verdict = .pass → 1 / 2 / 10 ^ 4 < o.exactSaving b + roundingOf b o
  cheaper : verdict = .pass → o.postChangeRequests ≤ b.baselineRequests →
    o.postUnitCost < b.unitCost
  kept : verdict = .pass → o.exactDrop b ≤ o.maxTolerableQualityDrop + 1 / 10 ^ 4
  passes : o.minSampleSize ≤ o.postChangeRequests →
    1 / 2 / 10 ^ 4 + roundingOf b o < o.exactSaving b →
    o.exactDrop b ≤ o.maxTolerableQualityDrop - 1 / 10 ^ 4 → verdict = .pass
  -- where there is nothing to round
  unrounded : roundTo 4 b.baselineCostUsd = b.baselineCostUsd → roundTo 4 b.outcomeRate = b.outcomeRate →
    roundTo 4 o.outcomeRate = o.outcomeRate →
    (verdict = .pass ↔ o.minSampleSize ≤ o.postChangeRequests ∧ 1 / 2 / 10 ^ 4 < o.exactSaving b ∧
      o.exactDrop b ≤ o.maxTolerableQualityDrop)

theorem Certifies.of_passes {verdict : VerificationVerdict} (positive : 0 < b.baselineRequests)
    (sampled : 0 < o.minSampleSize) (recorded : verdict = .pass ↔ o.Passes b) :
    Certifies b o verdict := by
  have drop := abs_le.mp (abs_drop_sub_le b o)
  have saved : verdict = .pass → 1 / 2 / 10 ^ 4 < o.exactSaving b + roundingOf b o := by
    intro passed
    have passes := recorded.mp passed
    have near := abs_le.mp (abs_saving_sub_le (b := b) positive (sampled.trans_le passes.sampled))
    have := passes.saved
    linarith
  constructor
  · exact recorded
  · exact saved
  · intro passed fewer
    have observed := sampled.trans_le (recorded.mp passed).sampled
    have gained : 0 < o.exactSaving b := by
      have := saved passed
      have := roundingOf_le observed fewer
      linarith
    have count : (0 : ℚ) < o.postChangeRequests := by exact_mod_cast observed
    exact sub_pos.mp ((mul_pos_iff_of_pos_right count).mp gained)
  · intro passed
    have := (recorded.mp passed).quality
    linarith
  · intro enough gained fell
    have near := abs_le.mp (abs_saving_sub_le (b := b) positive (sampled.trans_le enough))
    exact recorded.mpr ⟨enough, by linarith, by linarith⟩
  · intro cost before after
    rw [recorded]
    constructor
    · intro passes
      have quality := passes.quality
      have saved := passes.saved
      rw [before, after] at quality
      rw [cost] at saved
      exact ⟨passes.sampled, saved, quality⟩
    · intro holds
      obtain ⟨enough, gained, fell⟩ := holds
      refine ⟨enough, ?_, ?_⟩
      · rw [before, after]
        exact fell
      · rw [cost]
        exact gained

end

/-- A PASS certifies a saving at preserved quality, up to the roundings, for any baseline that
    was recorded and is found later. -/
theorem pass_certifies_saving {later : VerificationStore} {snapshot : BaselineSnapshot}
    (recorded : (recordBaseline b).run h.handle store = .ok (store', snapshot))
    (found : h.getBaselineSnapshot later o.recommendationId o.workspaceId = .ok (some snapshot))
    (sampled : 0 < o.minSampleSize) :
    (∀ after record, (verifySavings h o).run h.handle later = .ok (after, record) →
      Certifies b o record.verdict) ∧
    (storable o.postChangeRequests = true →
      ∃ after record, (verifySavings h o).run h.handle later = .ok (after, record)) := by
  obtain ⟨positive, rfl, fits, -⟩ := recordBaseline_ran recorded
  obtain ⟨record, certified, baseline, observed, passes⟩ := certify_pass (h := h) positive sampled
  have ran := verifySavings_run found certified
  rw [baseline, observed] at ran
  constructor
  · intro after other returned
    rw [ran] at returned
    split at returned
    · cases returned
      exact Certifies.of_passes positive sampled passes
    · cases returned
  · intro count
    rw [if_pos ⟨fits, count⟩] at ran
    exact ⟨_, _, ran⟩

/-! ## Where the roundings decide -/

def demoRecommendation : Str := "rec-1"

def demoWorkspace : Str := "ws-1"

def baselineOf (cost : Usd) : Baseline where
  recommendationId := demoRecommendation
  workspaceId := demoWorkspace
  baselineCostUsd := cost
  baselineRequests := 1
  baselineAcceptedOutcomes := 1
  snapshotId := "snap-1"
  createdAt := 0

/-- Ten requests for this amount together, all accepted. -/
def observationOf (cost : Usd) : Observation where
  recommendationId := demoRecommendation
  workspaceId := demoWorkspace
  projectedSavingUsd := 1
  postChangeCostUsd := cost
  postChangeRequests := 10
  postChangeAcceptedOutcomes := 10
  verificationId := "verif-1"
  verifiedAt := 1

def plainHashing : Hashing := ⟨fun text => text, fun t => decimal t⟩

def recordedStore (cost : Usd) : VerificationStore :=
  ⟨[plainHashing.row (baselineOf cost).snapshot], []⟩

theorem recorded_alone (cost : Usd) : (recordBaseline (baselineOf cost)).run plainHashing.handle
    ⟨[], []⟩ = .ok (recordedStore cost, (baselineOf cost).snapshot) := by
  have fits : storable 1 = true := by decide
  have counts : (baselineOf cost).snapshot.baselineRequests = 1 ∧
      (baselineOf cost).snapshot.baselineAcceptedOutcomes = 1 := ⟨rfl, rfl⟩
  have positive : ¬ (baselineOf cost).baselineRequests ≤ 0 := (by decide : ¬ (1 : Int) ≤ 0)
  rw [recordBaseline, if_neg positive]
  simp only [Program.perform_bind, Program.pure_eq, Program.run, Hashing.handle, counts, fits]
  rfl

theorem found_alone {before : Usd} (nonneg : 0 ≤ before) (after : Usd) :
    plainHashing.getBaselineSnapshot (recordedStore before)
      (observationOf after).recommendationId (observationOf after).workspaceId =
        .ok (some (baselineOf before).snapshot) := by
  have same : (baselineOf before).snapshot.asRead = (baselineOf before).snapshot :=
    snapshot_asRead nonneg (by decide : (0 : Int) ≤ 1) (by decide : (0 : Int) < 1) rfl
  have found := recordBaseline_found (recorded_alone before) same
  exact found

def verdictOf (before after : Usd) : VerificationVerdict :=
  ((observationOf after).conclusive plainHashing (baselineOf before).snapshot).verdict

theorem verdictOf_ran {before : Usd} (nonneg : 0 ≤ before) (after : Usd) : ∃ store record,
    (verifySavings plainHashing (observationOf after)).run plainHashing.handle (recordedStore before) =
      .ok (store, record) ∧ record.verdict = verdictOf before after := by
  have certified : (observationOf after).certify plainHashing (baselineOf before).snapshot =
      .ok ((observationOf after).conclusive plainHashing (baselineOf before).snapshot) := by
    rw [Observation.certify, if_neg, if_neg]
    · exact (by decide : ¬ ((1 : Int) = 0 ∨ (10 : Int) = 0))
    · exact (by decide : ¬ (10 : Int) < 10)
  have ran := verifySavings_run (found_alone nonneg after) certified
  have fits : storable 1 = true ∧ storable 10 = true := by decide
  exact ⟨_, _, ran.trans (if_pos fits), rfl⟩

/-- Requests that cost more than before pass, and requests that cost less fail: 0.00006 USD are
    recorded as 0.0001, and 0.00014 USD too. -/
theorem dearer_passes_cheaper_fails :
    (∃ store record, (verifySavings plainHashing (observationOf (8 / 10000))).run plainHashing.handle
        (recordedStore (6 / 100000)) = .ok (store, record) ∧ record.verdict = .pass) ∧
      ¬ (observationOf (8 / 10000)).postUnitCost < (baselineOf (6 / 100000)).unitCost ∧
    (∃ store record, (verifySavings plainHashing (observationOf (12 / 10000))).run plainHashing.handle
        (recordedStore (14 / 100000)) = .ok (store, record) ∧ record.verdict = .fail) ∧
      (observationOf (12 / 10000)).postUnitCost < (baselineOf (14 / 100000)).unitCost ∧
      1 / 10000 ≤ (observationOf (12 / 10000)).exactSaving (baselineOf (14 / 100000)) ∧
      (observationOf (12 / 10000)).exactDrop (baselineOf (14 / 100000)) ≤ 3 / 100 := by
  have dearer : verdictOf (6 / 100000) (8 / 10000) = .pass := by decide +kernel
  have cheaper : verdictOf (14 / 100000) (12 / 10000) = .fail := by decide +kernel
  obtain ⟨store, record, ran, its⟩ := verdictOf_ran (by norm_num : (0 : ℚ) ≤ 6 / 100000) (8 / 10000)
  obtain ⟨store', record', ran', its'⟩ := verdictOf_ran (by norm_num : (0 : ℚ) ≤ 14 / 100000) (12 / 10000)
  refine ⟨⟨store, record, ran, its.trans dearer⟩, ?_, ⟨store', record', ran', its'.trans cheaper⟩, ?_⟩
  · decide +kernel
  · decide +kernel

theorem halved_certified :
    (∀ after record, (verifySavings plainHashing (observationOf 5)).run plainHashing.handle
        (recordedStore 1) = .ok (after, record) →
      Certifies (baselineOf 1) (observationOf 5) record.verdict) ∧
    (storable (observationOf 5).postChangeRequests = true →
      ∃ after record, (verifySavings plainHashing (observationOf 5)).run plainHashing.handle
        (recordedStore 1) = .ok (after, record)) :=
  pass_certifies_saving (recorded_alone 1) (found_alone zero_le_one 5) (by decide)

end BurnLens.Verification
