import BurnLens.Config
import BurnLens.Library.Numeral
import BurnLens.Library.Program
import BurnLens.Library.Table

/-! # Verified savings

Baseline snapshots, the records of verifications against them, and the two calls of
`SavingsVerificationEngine`.  Ids and instants are drawn by the caller of the model; the digest
and the text of an instant are parameters.
-/

namespace BurnLens.Verification

open Library

inductive VerificationVerdict where
  | pass
  | fail
  | inconclusive
deriving DecidableEq

def VerificationVerdict.value : VerificationVerdict → Str
  | pass => "PASS"
  | fail => "FAIL"
  | inconclusive => "INCONCLUSIVE"

structure BaselineSnapshot where
  snapshotId : Str
  recommendationId : Str
  workspaceId : Str
  baselineCostUsd : Usd
  baselineRequests : Int
  baselineAcceptedOutcomes : Int
  baselineOutcomeRate : ℚ
  createdAt : Time
  -- whether a cost or a rate of 0 is `-0.0`, which a REAL column does not keep
  negativeZeroCost : Bool := false
  negativeZeroRate : Bool := false
deriving DecidableEq

/-- The snapshot as it comes back from its row. -/
def BaselineSnapshot.asRead (snapshot : BaselineSnapshot) : BaselineSnapshot :=
  { snapshot with negativeZeroCost := false, negativeZeroRate := false }

structure SavingsVerificationRecord where
  verificationId : Str
  recommendationId : Str
  workspaceId : Str
  projectedSavingUsd : Usd
  actualSavingUsd : Usd
  varianceUsd : Usd
  variancePercentage : ℚ
  baselineOutcomeRate : ℚ
  postChangeOutcomeRate : ℚ
  qualityChange : ℚ
  confidence : ℚ
  verdict : VerificationVerdict
  reason : Str
  sampleCountBaseline : Int
  sampleCountPostChange : Int
  evidenceSnapshot : Fields
  maxTolerableQualityDrop : ℚ
  calculationVersion : Int := 1
  verifiedAt : Time

/-- How a fingerprint is computed. -/
structure Hashing where
  sha256 : Str → Str
  isoformat : Time → Str

/-- The arguments of `record_baseline`, with the id and the instant that it draws. -/
structure Baseline where
  recommendationId : Str
  workspaceId : Str
  baselineCostUsd : Usd
  baselineRequests : Int
  baselineAcceptedOutcomes : Int
  snapshotId : Str
  createdAt : Time
  -- whether a cost of 0 is `-0.0`
  negativeZeroCost : Bool := false

/-- The arguments of `verify_savings`, with the id and the instant that it draws. -/
structure Observation where
  recommendationId : Str
  workspaceId : Str
  projectedSavingUsd : Usd
  postChangeCostUsd : Usd
  postChangeRequests : Int
  postChangeAcceptedOutcomes : Int
  minSampleSize : Int := 10
  maxTolerableQualityDrop : ℚ := 3 / 100
  verificationId : Str
  verifiedAt : Time

/-! ## The store -/

structure SnapshotRow where
  snapshot : BaselineSnapshot
  fingerprint : Str

/-- The unique keys of `baseline_snapshots`. -/
def SnapshotRow.clashes (other row : SnapshotRow) : Bool :=
  other.snapshot.snapshotId = row.snapshot.snapshotId ∨
    other.snapshot.workspaceId = row.snapshot.workspaceId ∧
      other.snapshot.recommendationId = row.snapshot.recommendationId

def SnapshotRow.isOf (recommendationId workspaceId : Str) (row : SnapshotRow) : Bool :=
  row.snapshot.recommendationId = recommendationId ∧ row.snapshot.workspaceId = workspaceId

/-- The primary key of `savings_verifications`. -/
def SavingsVerificationRecord.clashes (other record : SavingsVerificationRecord) : Bool :=
  other.verificationId = record.verificationId

structure VerificationStore where
  snapshots : List SnapshotRow
  records : List SavingsVerificationRecord

inductive Op where
  | saveBaselineSnapshot (snapshot : BaselineSnapshot)
  | getBaselineSnapshot (recommendationId workspaceId : Str)
  | saveVerificationRecord (record : SavingsVerificationRecord)

abbrev Answer : Op → Type
  | .getBaselineSnapshot .. => Option BaselineSnapshot
  | _ => Unit

namespace Hashing

variable (h : Hashing)

/-- `f"{x:.4f}"`. -/
def fixedSigned (negativeZero : Bool) (x : ℚ) : Str :=
  (if negativeZero then "-" else "") ++ fixed 4 x

def fingerprint (snapshot : BaselineSnapshot) : Str :=
  (h.sha256 (snapshot.snapshotId ++ ":" ++ snapshot.recommendationId ++ ":" ++
    snapshot.workspaceId ++ ":" ++ fixedSigned snapshot.negativeZeroCost snapshot.baselineCostUsd ++
    ":" ++ decimal snapshot.baselineRequests ++ ":" ++ decimal snapshot.baselineAcceptedOutcomes ++
    ":" ++ fixedSigned snapshot.negativeZeroRate snapshot.baselineOutcomeRate ++ ":" ++
    h.isoformat snapshot.createdAt)).take 16

def row (snapshot : BaselineSnapshot) : SnapshotRow := ⟨snapshot.asRead, h.fingerprint snapshot⟩

/-- What is read back from the row of the snapshot has the fingerprint it was saved with. -/
def Intact (snapshot : BaselineSnapshot) : Prop :=
  h.fingerprint snapshot.asRead = h.fingerprint snapshot

def getBaselineSnapshot (store : VerificationStore) (recommendationId workspaceId : Str) :
    Except Raised (Option BaselineSnapshot) :=
  match store.snapshots.find? (SnapshotRow.isOf recommendationId workspaceId) with
  | none => .ok none
  | some row =>
    if h.fingerprint row.snapshot ≠ row.fingerprint then
      .error ⟨"ValueError", "Tamper detected in stored baseline snapshot."⟩
    else .ok (some row.snapshot)

def handle : Handler VerificationStore Op Answer Raised
  | store, .saveBaselineSnapshot snapshot =>
    if storable snapshot.baselineRequests ∧ storable snapshot.baselineAcceptedOutcomes then
      .ok ({ store with snapshots :=
          insertOrReplace SnapshotRow.clashes store.snapshots (h.row snapshot) }, ())
    else .error integerOverflow
  | store, .getBaselineSnapshot recommendationId workspaceId =>
    (h.getBaselineSnapshot store recommendationId workspaceId).map fun found => (store, found)
  | store, .saveVerificationRecord record =>
    if storable record.sampleCountBaseline ∧ storable record.sampleCountPostChange then
      .ok ({ store with records :=
          insertOrReplace SavingsVerificationRecord.clashes store.records record }, ())
    else .error integerOverflow

end Hashing

/-! ## The engine -/

/-- Rounding a negative number that is near 0 leaves `-0.0`. -/
def roundsToNegativeZero (x : ℚ) : Bool := x < 0 ∧ roundTo 4 x = 0

def Baseline.snapshot (b : Baseline) : BaselineSnapshot where
  snapshotId := b.snapshotId
  recommendationId := b.recommendationId
  workspaceId := b.workspaceId
  baselineCostUsd := roundTo 4 b.baselineCostUsd
  baselineRequests := b.baselineRequests
  baselineAcceptedOutcomes := b.baselineAcceptedOutcomes
  baselineOutcomeRate := roundTo 4 (b.baselineAcceptedOutcomes / b.baselineRequests)
  createdAt := b.createdAt
  negativeZeroCost := roundsToNegativeZero b.baselineCostUsd ∨
    b.baselineCostUsd = 0 ∧ b.negativeZeroCost = true
  negativeZeroRate := roundsToNegativeZero (b.baselineAcceptedOutcomes / b.baselineRequests)

def recordBaseline (b : Baseline) : Program Op Answer Raised BaselineSnapshot :=
  if b.baselineRequests ≤ 0 then
    .raised ⟨"ValueError", "baseline_requests must be > 0, got " ++ decimal b.baselineRequests⟩
  else do
    Program.perform (Op.saveBaselineSnapshot b.snapshot)
    return b.snapshot

namespace Observation

variable (o : Observation)

def number (x : ℚ) : Json := .float (.fin x)

def inconclusive (baseline : BaselineSnapshot) : SavingsVerificationRecord where
  verificationId := o.verificationId
  recommendationId := o.recommendationId
  workspaceId := o.workspaceId
  projectedSavingUsd := o.projectedSavingUsd
  actualSavingUsd := 0
  varianceUsd := -o.projectedSavingUsd
  variancePercentage := -100
  baselineOutcomeRate := baseline.baselineOutcomeRate
  postChangeOutcomeRate := 0
  qualityChange := 0
  confidence := roundTo 2 (o.postChangeRequests / o.minSampleSize)
  verdict := .inconclusive
  reason := "Insufficient observation sample size: " ++ decimal o.postChangeRequests ++
    " requests observed (minimum required: " ++ decimal o.minSampleSize ++ ")."
  sampleCountBaseline := baseline.baselineRequests
  sampleCountPostChange := o.postChangeRequests
  evidenceSnapshot :=
    [("baseline", .obj [("cost", number baseline.baselineCostUsd),
        ("requests", .int baseline.baselineRequests),
        ("outcomes", .int baseline.baselineAcceptedOutcomes)]),
      ("post_change", .obj [("cost", number o.postChangeCostUsd),
        ("requests", .int o.postChangeRequests),
        ("outcomes", .int o.postChangeAcceptedOutcomes)])]
  maxTolerableQualityDrop := o.maxTolerableQualityDrop
  verifiedAt := o.verifiedAt

def baseUnitCost (baseline : BaselineSnapshot) : Usd :=
  baseline.baselineCostUsd / baseline.baselineRequests

def postUnitCost : Usd := o.postChangeCostUsd / o.postChangeRequests

def actualSavingUsd (baseline : BaselineSnapshot) : Usd :=
  roundTo 4 ((baseUnitCost baseline - o.postUnitCost) * o.postChangeRequests)

def varianceUsd (baseline : BaselineSnapshot) : Usd :=
  roundTo 4 (o.actualSavingUsd baseline - o.projectedSavingUsd)

def postOutcomeRate : ℚ := roundTo 4 (o.postChangeAcceptedOutcomes / o.postChangeRequests)

def qualityChange (baseline : BaselineSnapshot) : ℚ :=
  roundTo 4 (o.postOutcomeRate - baseline.baselineOutcomeRate)

/-- `f"{x:+.2%}"`. -/
def signedPercent (x : ℚ) : Str := (if x < 0 then "" else "+") ++ fixed 2 (x * 100) ++ "%"

def verdict (baseline : BaselineSnapshot) : VerificationVerdict × Str :=
  if o.qualityChange baseline < -o.maxTolerableQualityDrop then
    (.fail, "VERIFIED FAIL: Outcome quality degraded by " ++
      fixed 1 (|o.qualityChange baseline| * 100) ++ "%, exceeding max tolerable threshold of " ++
      fixed 1 (o.maxTolerableQualityDrop * 100) ++ "%.")
  else if o.actualSavingUsd baseline ≤ 0 then
    (.fail, "VERIFIED FAIL: Actual saving was $" ++ fixed 2 (o.actualSavingUsd baseline) ++
      "; no economic reduction achieved relative to baseline.")
  else
    (.pass, "VERIFIED PASS: Realized $" ++ fixed 2 (o.actualSavingUsd baseline) ++
      " savings (projected: $" ++ fixed 2 o.projectedSavingUsd ++ ") with stable outcome quality (" ++
      signedPercent (o.qualityChange baseline) ++ ").")

def evidence (h : Hashing) (baseline : BaselineSnapshot) : Fields :=
  [("baseline", .obj [("unit_cost_usd", number (roundTo 6 (baseUnitCost baseline))),
      ("total_cost_usd", number baseline.baselineCostUsd),
      ("requests", .int baseline.baselineRequests),
      ("outcome_rate", number baseline.baselineOutcomeRate),
      ("fingerprint", .str (h.fingerprint baseline))]),
    ("post_change", .obj [("unit_cost_usd", number (roundTo 6 o.postUnitCost)),
      ("total_cost_usd", number o.postChangeCostUsd),
      ("requests", .int o.postChangeRequests),
      ("outcome_rate", number o.postOutcomeRate)]),
    ("normalized_actual_saving_usd", number (o.actualSavingUsd baseline)),
    ("projected_saving_usd", number o.projectedSavingUsd),
    ("variance_usd", number (o.varianceUsd baseline)),
    ("quality_change", number (o.qualityChange baseline))]

def conclusive (h : Hashing) (baseline : BaselineSnapshot) : SavingsVerificationRecord where
  verificationId := o.verificationId
  recommendationId := o.recommendationId
  workspaceId := o.workspaceId
  projectedSavingUsd := o.projectedSavingUsd
  actualSavingUsd := o.actualSavingUsd baseline
  varianceUsd := o.varianceUsd baseline
  variancePercentage :=
    roundTo 2 (o.varianceUsd baseline / max (1 / 1000) o.projectedSavingUsd * 100)
  baselineOutcomeRate := baseline.baselineOutcomeRate
  postChangeOutcomeRate := o.postOutcomeRate
  qualityChange := o.qualityChange baseline
  confidence := roundTo 2 (min 1 (o.postChangeRequests / 50))
  verdict := (o.verdict baseline).1
  reason := (o.verdict baseline).2
  sampleCountBaseline := baseline.baselineRequests
  sampleCountPostChange := o.postChangeRequests
  evidenceSnapshot := o.evidence h baseline
  maxTolerableQualityDrop := o.maxTolerableQualityDrop
  verifiedAt := o.verifiedAt

def divisionByZero : Raised := ⟨"ZeroDivisionError", "float division by zero"⟩

/-- What `verify_savings` computes from the baseline that it has read. -/
def certify (h : Hashing) (baseline : BaselineSnapshot) : Except Raised SavingsVerificationRecord :=
  if o.postChangeRequests < o.minSampleSize then
    if o.minSampleSize = 0 then .error divisionByZero else .ok (o.inconclusive baseline)
  else if baseline.baselineRequests = 0 ∨ o.postChangeRequests = 0 then .error divisionByZero
  else .ok (o.conclusive h baseline)

theorem certify_ok {o : Observation} {h : Hashing} {baseline : BaselineSnapshot}
    (positive : 0 < baseline.baselineRequests) (sampled : 0 < o.minSampleSize) :
    ∃ record, o.certify h baseline = .ok record ∧ record.verificationId = o.verificationId ∧
      record.sampleCountBaseline = baseline.baselineRequests ∧
      record.sampleCountPostChange = o.postChangeRequests := by
  rw [certify]
  split
  · rw [if_neg (by omega)]
    exact ⟨_, rfl, rfl, rfl, rfl⟩
  · rw [if_neg (by omega)]
    exact ⟨_, rfl, rfl, rfl, rfl⟩

end Observation

def verifySavings (h : Hashing) (o : Observation) :
    Program Op Answer Raised SavingsVerificationRecord := do
  let found ← Program.perform (Op.getBaselineSnapshot o.recommendationId o.workspaceId)
  match found with
  | none =>
    .raised ⟨"ValueError", "No baseline snapshot found for recommendation '" ++
      o.recommendationId ++ "' in workspace '" ++ o.workspaceId ++ "'"⟩
  | some baseline =>
    match o.certify h baseline with
    | .error error => .raised error
    | .ok record =>
      Program.perform (Op.saveVerificationRecord record)
      return record

/-- How `verify_savings` goes on from what it has computed. -/
def saveCertified : Except Raised SavingsVerificationRecord →
    Program Op Answer Raised SavingsVerificationRecord
  | .error error => .raised error
  | .ok record => do
    Program.perform (Op.saveVerificationRecord record)
    return record

end BurnLens.Verification
