import BurnLens.Library.GroupBy
import BurnLens.Library.Paging
import BurnLens.Library.Rounding
import BurnLens.Library.Text
import Mathlib.Algebra.Group.Prod
import Mathlib.Data.List.Dedup
import Mathlib.Logic.Function.Basic

/-! # Cost confidence

`cost_confidence` over the tables of all workspaces: the days with spend against the provider's
bill, the classes of the requests, and the report.  Instants are microseconds of UTC.
-/

namespace BurnLens.Backend

open Library

/-! ## Tables -/

/-- A row of `request_records`.  Where the token counts sum to more than their columns hold, the
    queries raise. -/
structure SpendRecord where
  workspaceId : Str
  ts : Int
  provider : Str
  model : Str
  inputTokens : Int := 0
  outputTokens : Int := 0
  cacheReadTokens : Int := 0
  cacheWriteTokens : Int := 0
  costUsd : ℚ := 0
  source : Option Str := none
  pricingClass : Option Str := none
deriving DecidableEq

structure ReconciliationCredential where
  workspaceId : Str
  provider : Str
deriving DecidableEq

/-- A row of `reconciliation_runs`. -/
structure ReconciliationRun where
  workspaceId : Str
  provider : Str
  day : Int
  burnlensCostUsd : ℚ
  -- null where the provider billed nothing
  driftPct : Option ℚ
deriving DecidableEq

def ReconciliationCredential.key (credential : ReconciliationCredential) : Str × Str :=
  (credential.workspaceId, credential.provider)

def ReconciliationRun.key (run : ReconciliationRun) : Str × Str × Int :=
  (run.workspaceId, run.provider, run.day)

/-- The tables, with their primary keys. -/
structure ReconciliationTables where
  records : List SpendRecord
  credentials : List ReconciliationCredential
  runs : List ReconciliationRun
  credentialsDistinct : (credentials.map ReconciliationCredential.key).Nodup
  runsDistinct : (runs.map ReconciliationRun.key).Nodup

/-- `ts AT TIME ZONE 'UTC'`, as a date. -/
def utcDay (ts : Int) : Int := ts / 86400000000

def SpendRecord.tokens (record : SpendRecord) : Int :=
  record.inputTokens + record.outputTokens + record.cacheReadTokens + record.cacheWriteTokens

/-- The records that both queries select from. -/
def ReconciliationTables.window (db : ReconciliationTables) (workspaceId : Str) (since before : Int) :
    List SpendRecord :=
  db.records.filter fun record =>
    record.workspaceId = workspaceId ∧ since ≤ record.ts ∧ record.ts < before

/-! ## The state of a provider -/

inductive ProviderStatus where
  | reconciled
  | drifted
  | unreconciled
deriving DecidableEq

def driftAlertThresholdPct : ℚ := 2

def classify (driftPct : Option ℚ) (burnlensCost : Option ℚ) (threshold : ℚ) : ProviderStatus :=
  match driftPct with
  -- the provider billed nothing: agreement is that nothing was counted
  | none => if burnlensCost.getD 0 = 0 then .reconciled else .drifted
  | some drift => if |drift| ≤ threshold then .reconciled else .drifted

def ReconciliationRun.status (run : ReconciliationRun) : ProviderStatus :=
  classify run.driftPct (some run.burnlensCostUsd) driftAlertThresholdPct

structure PeriodStatusRow where
  provider : Str
  day : Int
  hasCredential : Bool
  -- the columns of the run, which are null together
  run : Option ReconciliationRun
deriving DecidableEq

/-- The providers and days that `_PERIOD_STATUS_SQL` calls days with spend. -/
def spendDays (window : List SpendRecord) : List (Str × Int) :=
  ((window.filter fun record => 0 < record.costUsd ∨ 0 < record.tokens).map fun record =>
    (record.provider, utcDay record.ts)).dedup

def ReconciliationTables.periodStatusRows (db : ReconciliationTables) (workspaceId : Str)
    (window : List SpendRecord) : List PeriodStatusRow :=
  (spendDays window).flatMap fun spendDay =>
    (leftJoin (fun (provider, _) credential =>
        ReconciliationCredential.key credential = (workspaceId, provider))
      db.credentials spendDay).flatMap fun credential =>
      (leftJoin (fun (provider, day) run => ReconciliationRun.key run = (workspaceId, provider, day))
        db.runs spendDay).map fun run =>
        ⟨spendDay.1, spendDay.2, credential.isSome, run⟩

def periodProviderStatus (rows : List PeriodStatusRow) : Option ProviderStatus :=
  if rows.all PeriodStatusRow.hasCredential then
    if rows.any fun row => row.run.isNone then some .unreconciled
    else if ProviderStatus.drifted ∈ (rows.filterMap PeriodStatusRow.run).map ReconciliationRun.status then
      some .drifted
    else some .reconciled
  else none

def buildPeriodProviderStatus (rows : List PeriodStatusRow) : List (Str × Option ProviderStatus) :=
  (rows.map PeriodStatusRow.provider).dedup.map fun provider =>
    (provider, periodProviderStatus (rows.filter fun row => row.provider = provider))

/-! ## The class of a request -/

inductive PricingState where
  | priced
  | unpriced
  | noUsage
deriving DecidableEq

def SpendRecord.pricingState (record : SpendRecord) : PricingState :=
  if 0 < record.costUsd then .priced
  else if 0 < record.tokens then .unpriced
  else .noUsage

/-- `source LIKE 'scan\_%'`, null where the source is. -/
def SpendRecord.isScan (record : SpendRecord) : Option Bool :=
  record.source.map (startsWith "scan_")

/-- What `_CONFIDENCE_SQL` groups by. -/
structure ConfidenceKey where
  provider : Str
  model : Str
  isScan : Option Bool
  pricingClass : Option Str
  pricingState : PricingState
deriving DecidableEq

structure ConfidenceRow extends ConfidenceKey where
  requests : Nat
  cost : ℚ
deriving DecidableEq

def SpendRecord.confidenceKey (record : SpendRecord) : ConfidenceKey where
  provider := record.provider
  model := record.model
  isScan := record.isScan
  pricingClass := record.pricingClass
  pricingState := record.pricingState

def confidenceRows (window : List SpendRecord) : List ConfidenceRow :=
  (groupSum (fun record => some (SpendRecord.confidenceKey record))
    (fun record => ((1 : Nat), SpendRecord.costUsd record)) window).map fun (key, requests, cost) =>
      { toConfidenceKey := key, requests := requests, cost := cost }

inductive ConfidenceClass where
  | reconciled
  | calculated
  | estimated
  | unpriced
deriving DecidableEq

def confidenceClasses : List ConfidenceClass := [.reconciled, .calculated, .estimated, .unpriced]

def reasons : ConfidenceClass → Str
  | .reconciled => "provider_bill_agreed"
  | .calculated => "priced_from_pricing_table"
  | .estimated => "agent_self_reported_tokens"
  | .unpriced => "model_has_no_price"

def storedClass (pricingClass : Option Str) : Option ConfidenceClass :=
  if pricingClass = some ("unpriced" : Str) then some .unpriced
  else if pricingClass = some ("calculated" : Str) then some .calculated
  else if pricingClass = some ("estimated" : Str) then some .estimated
  else none

/-- The class of a group, before the provider's bill. -/
def localClass (pricingState : PricingState) (isScan : Bool) (pricingClass : Option Str) :
    Option ConfidenceClass :=
  match storedClass pricingClass, pricingState with
  | some stored, _ => some stored
  | none, .noUsage => none
  | none, .unpriced => some .unpriced
  | none, .priced => some (if isScan then .estimated else .calculated)

def classifyRow (pricingState : PricingState) (isScan : Bool) (providerStatus : Option ProviderStatus)
    (pricingClass : Option Str) : Option (ConfidenceClass × Str) :=
  (localClass pricingState isScan pricingClass).map fun own =>
    let cls :=
      if own = .unpriced then .unpriced
      else if providerStatus = some .reconciled then .reconciled
      else own
    (cls, reasons cls)

/-! ## The report -/

structure ConfidenceBucket where
  costUsd : ℚ
  requests : Nat
  sharePct : ℚ
deriving DecidableEq

inductive GapReason where
  | unpriced
  | drifted
  | unreconciled
  | noBillingKey
deriving DecidableEq

structure CoverageGap where
  provider : Str
  model : Option Str := none
  requests : Nat
  reason : GapReason
  detail : Str
deriving DecidableEq

structure CostConfidence where
  days : Nat
  totalCostUsd : ℚ
  totalRequests : Nat
  confidencePct : ℚ
  reconciledSpendPct : ℚ
  reconciled : ConfidenceBucket
  calculated : ConfidenceBucket
  estimated : ConfidenceBucket
  unpriced : ConfidenceBucket
  reasons : List (Str × Nat)
  gaps : List CoverageGap
deriving DecidableEq

/-- What the loop over the groups keeps. -/
structure ConfidenceTally where
  cost : ConfidenceClass → ℚ := fun _ => 0
  reqs : ConfidenceClass → Nat := fun _ => 0
  reasons : List (Str × Nat) := []
  unpricedModels : List ((Str × Str) × Nat) := []
  spendProviders : List Str := []

section

variable (providerStatus : List (Str × Option ProviderStatus))

/-- `provider_status.get(provider)` -/
def getStatus (provider : Str) : Option ProviderStatus := (providerStatus.lookup provider).join

def verdict (key : ConfidenceKey) : Option (ConfidenceClass × Str) :=
  classifyRow key.pricingState (key.isScan.getD false) (getStatus providerStatus key.provider)
    key.pricingClass

def tallyRow (tally : ConfidenceTally) (row : ConfidenceRow) : ConfidenceTally :=
  match verdict providerStatus row.toConfidenceKey with
  | none => tally
  | some (bucket, reason) =>
    { cost := Function.update tally.cost bucket (tally.cost bucket + row.cost)
      reqs := Function.update tally.reqs bucket (tally.reqs bucket + row.requests)
      reasons := addTo reason row.requests tally.reasons
      unpricedModels :=
        if bucket = .unpriced then addTo (row.provider, row.model) row.requests tally.unpricedModels
        else tally.unpricedModels
      spendProviders := tally.spendProviders.insert row.provider }

def unpricedGap (entry : (Str × Str) × Nat) : CoverageGap where
  provider := entry.1.1
  model := some entry.1.2
  requests := entry.2
  reason := .unpriced
  detail := entry.1.2 ++ " has no price in the pricing table — these requests count as $0.".toList

def providerGap (provider : Str) : Option CoverageGap :=
  let gap (reason : GapReason) (detail : Str) : CoverageGap :=
    { provider := provider, requests := 0, reason := reason, detail := detail }
  match getStatus providerStatus provider with
  | some .reconciled => none
  | none => some (gap .noBillingKey
      "No billing key stored, so this provider's spend has never been compared with its bill.")
  | some .drifted => some (gap .drifted
      "The last comparison with this provider's bill was outside the drift threshold.")
  | some .unreconciled => some (gap .unreconciled
      "Billing key stored, but no comparison has run yet.")

def ConfidenceTally.gaps (tally : ConfidenceTally) : List CoverageGap :=
  (tally.unpricedModels.mergeSort fun a b => b.2 ≤ a.2).map unpricedGap ++
    (tally.spendProviders.mergeSort fun a b => !decide (b < a)).filterMap (providerGap providerStatus)

def buildConfidence (rows : List ConfidenceRow) (days : Nat) : CostConfidence :=
  let tally := rows.foldl (tallyRow providerStatus) {}
  let totalCost := (confidenceClasses.map tally.cost).sum
  let totalReqs := (confidenceClasses.map tally.reqs).sum
  let classified := totalReqs - tally.reqs .unpriced
  let confidence := if totalReqs = 0 then 0 else (classified : ℚ) / totalReqs * 100
  let reconciledSpend := if totalCost = 0 then 0 else tally.cost .reconciled / totalCost * 100
  let bucket (name : ConfidenceClass) : ConfidenceBucket :=
    { costUsd := roundEven 6 (tally.cost name)
      requests := tally.reqs name
      sharePct := if totalCost = 0 then 0 else roundEven 2 (tally.cost name / totalCost * 100) }
  { days := days
    totalCostUsd := roundEven 6 totalCost
    totalRequests := totalReqs
    confidencePct := roundEven 1 confidence
    reconciledSpendPct := roundEven 1 reconciledSpend
    reconciled := bucket .reconciled
    calculated := bucket .calculated
    estimated := bucket .estimated
    unpriced := bucket .unpriced
    reasons := tally.reasons
    gaps := tally.gaps providerStatus }

end

/-- The orders in which the queries return their rows: one has no `ORDER BY`, the other that of the
    database's collation. -/
structure QueryOrders where
  confidence : OrderBy fun _ : ConfidenceRow => ()
  periodStatus : OrderBy fun _ : PeriodStatusRow => ()

def ReconciliationTables.providerStatus (db : ReconciliationTables) (orders : QueryOrders)
    (workspaceId : Str) (window : List SpendRecord) : List (Str × Option ProviderStatus) :=
  buildPeriodProviderStatus (orders.periodStatus.order (db.periodStatusRows workspaceId window))

def ReconciliationTables.confidence (db : ReconciliationTables) (orders : QueryOrders)
    (workspaceId : Str) (since before : Int) (days : Nat) : CostConfidence :=
  let window := db.window workspaceId since before
  buildConfidence (db.providerStatus orders workspaceId window)
    (orders.confidence.order (confidenceRows window)) days

/-- The endpoint, after `clamp_days_by_plan`. -/
def ReconciliationTables.costConfidence (db : ReconciliationTables) (orders : QueryOrders)
    (workspaceId : Str) (days : Nat) (now : Int) : CostConfidence :=
  db.confidence orders workspaceId (now - days * 86400000000) now days

end BurnLens.Backend
