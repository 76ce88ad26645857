import BurnLens.Library.GroupBy
import BurnLens.Library.Json
import BurnLens.Library.Rounding

/-! # Waste findings

The table of findings and what the statements of `sync_findings`, `set_finding_status` and
`verify_savings` do to it, in the local database and in the cloud.  The rows are those of one
workspace, to which every statement of the cloud is restricted.
-/

namespace BurnLens.Findings

open Library

/-! ## Rows -/

inductive FindingStatus where
  | opened
  | acknowledged
  | resolved
  | acceptedRisk
deriving DecidableEq

/-- `VALID_STATUSES` -/
def FindingStatus.ofText? (text : Str) : Option FindingStatus :=
  if text = "open" then some .opened
  else if text = "acknowledged" then some .acknowledged
  else if text = "resolved" then some .resolved
  else if text = "accepted_risk" then some .acceptedRisk
  else none

/-- A datetime: microseconds of UTC, and the fixed offset in which it is written. -/
structure Moment where
  instant : Int
  utcoffset : Int := 0
deriving DecidableEq

def Moment.addDays (t : Moment) (days : Int) : Moment :=
  { t with instant := t.instant + days * 86400000000 }

/-- What a detector found. -/
structure WasteFinding where
  fingerprint : Str
  detector : Str
  subjectType : Str
  subjectKey : Str
  severity : Str
  title : Str
  description : Str
  estimatedWasteUsd : ℚ
  affectedCount : Int
  evidence : Fields

/-- A row of `waste_findings`; the evidence is stored as JSON and read back. -/
structure StoredFinding where
  fingerprint : Str
  detector : Str
  subjectType : Str
  subjectKey : Str
  severity : Str
  title : Str
  description : Str
  estimatedWasteUsd : ℚ
  affectedCount : Int
  evidence : Fields
  status : FindingStatus
  firstSeenAt : Moment
  lastSeenAt : Moment
  resolvedAt : Option Moment := none
  baselineWasteUsd : Option ℚ := none
  baselineCostUsd : Option ℚ := none
  baselineRequests : Option Nat := none
  baselineWindowDays : Option Int := none
  detectionCount : Nat := 1

abbrev FindingTable := List StoredFinding

namespace FindingTable

variable (rows : FindingTable)

/-- `SELECT ... WHERE fingerprint = ?` -/
def row? (fingerprint : Str) : Option StoredFinding :=
  rows.find? fun row => row.fingerprint = fingerprint

/-- `UPDATE ... WHERE fingerprint = ?` -/
def update (fingerprint : Str) (change : StoredFinding → StoredFinding) : FindingTable :=
  rows.map fun row => if row.fingerprint = fingerprint then change row else row

end FindingTable

/-! ## A detection pass -/

/-- The row that `sync_findings` inserts. -/
def WasteFinding.inserted (finding : WasteFinding) (now : Moment) : StoredFinding where
  fingerprint := finding.fingerprint
  detector := finding.detector
  subjectType := finding.subjectType
  subjectKey := finding.subjectKey
  severity := finding.severity
  title := finding.title
  description := finding.description
  estimatedWasteUsd := finding.estimatedWasteUsd
  affectedCount := finding.affectedCount
  evidence := finding.evidence
  status := .opened
  firstSeenAt := now
  lastSeenAt := now

/-- The status that a pass writes where it has read one. -/
def newStatus (existing : FindingStatus) : FindingStatus :=
  if existing = .resolved then .opened else existing

/-- The `UPDATE` of a finding that was there: the evidence is replaced. -/
def WasteFinding.refreshed (finding : WasteFinding) (now : Moment) (existing : FindingStatus)
    (row : StoredFinding) : StoredFinding :=
  { row with
    severity := finding.severity
    description := finding.description
    estimatedWasteUsd := finding.estimatedWasteUsd
    affectedCount := finding.affectedCount
    evidence := finding.evidence
    lastSeenAt := now
    status := newStatus existing
    detectionCount := row.detectionCount + 1 }

/-- The write of a finding whose status was read as `existing`; nothing, where the primary key is
    violated. -/
def writeFinding (rows : FindingTable) (finding : WasteFinding) (now : Moment) :
    Option FindingStatus → Option FindingTable
  | some existing => some (rows.update finding.fingerprint (finding.refreshed now existing))
  | none =>
    if (rows.row? finding.fingerprint).isSome then none else some (rows ++ [finding.inserted now])

def readStatus (rows : FindingTable) (finding : WasteFinding) : Option FindingStatus :=
  (rows.row? finding.fingerprint).map StoredFinding.status

/-- `sync_findings` with nothing in between: what a read finds is still so at its write. -/
def syncFindings (now : Moment) (rows : FindingTable) (findings : List WasteFinding) :
    Option FindingTable :=
  findings.foldlM (fun rows finding => writeFinding rows finding now (readStatus rows finding)) rows

/-! ## Spend of a subject -/

/-- A subject: a workflow, a model or something else. -/
structure Scope where
  type : Str
  key : Str
deriving DecidableEq

/-- From `since` on, `before` excluded. -/
structure Window where
  since : Moment
  before : Moment
deriving DecidableEq

def Window.length (window : Window) : Int := window.before.instant - window.since.instant

def windowBefore (t : Moment) (days : Int) : Window := ⟨t.addDays (-days), t⟩

def windowAfter (t : Moment) (days : Int) : Window := ⟨t, t.addDays days⟩

/-- A request or an outcome, with its time: the text that the local database holds, and the
    instant that the cloud does. -/
structure Dated (Fact : Type) where
  timestamp : Str
  ts : Int
  fact : Fact

structure SubjectRequest where
  workflowId : Option Str
  model : Str
  costUsd : ℚ

structure SubjectOutcome where
  workflowId : Option Str
  accepted : Bool

inductive Database where
  | sqlite
  | postgres
deriving DecidableEq

structure Site where
  database : Database
  -- `datetime.isoformat`
  isoformat : Moment → Str

namespace Site

variable (site : Site)

def within {Fact : Type} (window : Window) (row : Dated Fact) : Bool :=
  match site.database with
  | .sqlite =>
    !decide (row.timestamp < site.isoformat window.since) &&
      decide (row.timestamp < site.isoformat window.before)
  | .postgres => decide (window.since.instant ≤ row.ts) && decide (row.ts < window.before.instant)

def money (amount : ℚ) : ℚ :=
  match site.database with
  | .sqlite => amount
  | .postgres => numeric 4 amount

end Site

/-- The kinds of subject whose spend can be told. -/
def isScopeType (type : Str) : Bool := type = "workflow" || type = "model"

def Scope.holds (scope : Scope) (request : SubjectRequest) : Bool :=
  if scope.type = "workflow" then request.workflowId = some scope.key
  else if scope.type = "model" then request.model = scope.key
  else false

def getSubjectSpend (site : Site) (requests : List (Dated SubjectRequest)) (scope : Scope)
    (window : Window) : ℚ × Nat :=
  let rows := requests.filter fun row => scope.holds row.fact && site.within window row
  ((rows.map fun row => row.fact.costUsd).sum, rows.length)

/-! ## User decisions -/

/-- The arguments of a resolve call, and what it finds around it. -/
structure Resolve where
  baselineWindowDays : Int := 7
  cohortKey : Option Str := none
  changeReference : Option Str := none
  changeType : Option Str := none
  changeUrl : Option Str := none
  owner : Option Str := none
  acceptanceCriteria : Option Str := none
  configurationBefore : Option Str := none
  configurationAfter : Option Str := none
  effectiveAt : Option Moment := none
  now : Moment
  -- the commit that `read_git_context` finds, which the cloud does not ask
  commitSha : Option Str := none

def given (text : Option Str) : Option Str := text.filter fun text => text ≠ []

/-- The scope of a cohort key `type:key`, where it names one. -/
def cohortScope (subject : Scope) (cohortKey : Str) : Scope :=
  let type := before ':' cohortKey
  match afterFirst ":" cohortKey with
  | some key => if isScopeType type ∧ key ≠ [] then ⟨type, key⟩ else subject
  | none => subject

def comparisonRule : Str := "same_subject_equal_windows"

namespace Resolve

variable (call : Resolve) (site : Site) (existing : StoredFinding)

def at_ : Moment := call.effectiveAt.getD call.now

def subject : Scope := ⟨existing.subjectType, existing.subjectKey⟩

def cohort : Str :=
  (given call.cohortKey).getD (existing.subjectType ++ ":" ++ existing.subjectKey)

def scope : Scope := cohortScope (subject existing) (call.cohort existing)

/-- The change that the call refers to, and its type: the local stack falls back on the commit. -/
def change : Option Str × Option Str :=
  match given call.changeReference, site.database, given call.commitSha with
  | none, .sqlite, some sha => (some ("commit:" ++ sha), (given call.changeType).or (some "commit"))
  | reference, _, _ => (reference, given call.changeType)

/-- An entry that is written where the text is given. -/
def entryIf (name : Str) (text : Option Str) : Fields :=
  (text.map fun text => (name, Json.str text)).toList

def verification : Fields :=
  let measured : Fields :=
    [("cohort_key", .str (call.cohort existing)),
      ("intervention_id",
        .str ("finding:" ++ existing.fingerprint ++ ":" ++ site.isoformat call.at_)),
      ("comparison_rule", .str comparisonRule),
      ("scope_type", .str (call.scope existing).type),
      ("scope_key", .str (call.scope existing).key)]
  let effective : Fields := [("effective_at", .str (site.isoformat call.at_))]
  measured ++
    entryIf "change_reference" (call.change site).1 ++
    entryIf "change_type" (call.change site).2 ++
    entryIf "change_url" (given call.changeUrl) ++
    entryIf "owner" (given call.owner) ++
    entryIf "acceptance_criteria" (given call.acceptanceCriteria) ++
    entryIf "configuration_before" (given call.configurationBefore) ++
    entryIf "configuration_after" (given call.configurationAfter) ++
    effective

/-- The evidence of a finding with this intervention: the previous one goes to the history. -/
def evidence : Fields :=
  let kept : Fields :=
    match existing.evidence.get? "verification" with
    | some (.obj previous) =>
      let history := match existing.evidence.get? "verification_history" with
        | some (.arr history) => history
        | _ => []
      existing.evidence.set "verification_history" (.arr (history ++ [.obj previous]))
    | _ => existing.evidence
  kept.set "verification" (.obj (call.verification site existing))

def baselineWindow : Window := windowBefore call.at_ call.baselineWindowDays

/-- The `UPDATE` of a resolve call, with what it has read of the finding and of its spend. -/
def resolved (baseline : ℚ × Nat) (row : StoredFinding) : StoredFinding :=
  { row with
    status := .resolved
    resolvedAt := some call.at_
    baselineWasteUsd := some row.estimatedWasteUsd
    baselineCostUsd := some (site.money baseline.1)
    baselineRequests := some baseline.2
    baselineWindowDays := some call.baselineWindowDays
    evidence := call.evidence site existing }

end Resolve

def setStatus (rows : FindingTable) (fingerprint : Str) (status : FindingStatus) : FindingTable :=
  rows.update fingerprint fun row => { row with status := status }

/-! ## Verification of savings -/

inductive VerdictStatus where
  | noBaseline
  | pending
  | noTraffic
  | inconclusive
  | verified
  | missed
deriving DecidableEq

inductive OutcomeQuality where
  | unavailable
  | insufficient
  | degraded
  | preserved
deriving DecidableEq

/-- What a verdict says, once an after-window with traffic is compared with the baseline. -/
structure Comparison where
  currentRequests : Nat
  baselineAcceptanceRate : Option ℚ
  currentAcceptanceRate : Option ℚ
  outcomeQuality : OutcomeQuality
  baselineCostPerRequest : ℚ
  currentCostPerRequest : ℚ
  deltaPerRequest : ℚ
  pctChange : Option ℚ
  projectedMonthlySavingsUsd : ℚ

structure SavingsVerdict where
  fingerprint : Str
  status : VerdictStatus := .noBaseline
  -- the evidence that the verdict quotes
  verification : Option Fields
  reopened : Bool
  daysRemaining : Option ℚ := none
  baselineRequests : Option Nat := none
  currentRequests : Option Nat := none
  comparison : Option Comparison := none

def minVerifyRequests : Nat := 30

def classifySavings (deltaPerRequest : ℚ) (currentRequests : Nat) : VerdictStatus :=
  if currentRequests < minVerifyRequests then .inconclusive
  else if 0 < deltaPerRequest then .verified
  else .missed

/-- The verification that the evidence holds, if it is an object. -/
def StoredFinding.verification (row : StoredFinding) : Option Fields :=
  match row.evidence.get? "verification" with
  | some (.obj verification) => some verification
  | _ => none

/-- The scope of the after-window.  Only `set_finding_status` writes a verification, with texts. -/
def StoredFinding.measuredScope (site : Site) (row : StoredFinding) : Scope :=
  let subject : Scope := ⟨row.subjectType, row.subjectKey⟩
  match row.verification with
  | none => subject
  | some verification =>
    match verification.get? "scope_type", verification.get? "scope_key" with
    | some (.str type), some (.str key) =>
      if isScopeType type ∧ (site.database = .sqlite ∨ key ≠ []) then ⟨type, key⟩ else subject
    | _, _ => subject

/-- The requests and the outcomes that the verifier reads. -/
structure Traffic where
  requests : List (Dated SubjectRequest)
  outcomes : List (Dated SubjectOutcome)

/-- `_workflow_outcome_quality`: the rate of accepted outcomes, and how many there are. -/
def outcomeRate (site : Site) (outcomes : List (Dated SubjectOutcome)) (workflowId : Str)
    (window : Window) : Option ℚ × Nat :=
  let rows := outcomes.filter fun row =>
    row.fact.workflowId = some workflowId ∧ site.within window row
  let accepted := (rows.filter fun row => row.fact.accepted).length
  (if rows.length = 0 then none else some ((accepted : ℚ) / rows.length), rows.length)

def outcomeQuality (baseline current : Option ℚ × Nat) : OutcomeQuality :=
  if baseline.2 ≠ 0 ∧ current.2 ≠ 0 then
    if current.1.getD 0 < baseline.1.getD 0 then .degraded else .preserved
  else .insufficient

/-- The comparison of a finding with a baseline with the after-window in which there is traffic. -/
def compareWindows (site : Site) (traffic : Traffic) (scope : Scope) (resolvedAt : Moment)
    (days : Int) (baseline current : ℚ × Nat) : Comparison :=
  let rate := outcomeRate site traffic.outcomes scope.key
  let rates := (rate (windowBefore resolvedAt days), rate (windowAfter resolvedAt days))
  let perRequest (spend : ℚ × Nat) := spend.1 / spend.2
  let delta := perRequest baseline - perRequest current
  { currentRequests := current.2
    baselineAcceptanceRate := if scope.type = "workflow" then rates.1.1 else none
    currentAcceptanceRate := if scope.type = "workflow" then rates.2.1 else none
    outcomeQuality :=
      if scope.type = "workflow" then outcomeQuality rates.1 rates.2 else .unavailable
    baselineCostPerRequest := perRequest baseline
    currentCostPerRequest := perRequest current
    deltaPerRequest := delta
    pctChange :=
      if perRequest baseline = 0 then none
      else some ((perRequest current - perRequest baseline) / perRequest baseline * 100)
    projectedMonthlySavingsUsd := delta * current.2 * (30 / days) }

/-- The status of a comparison: a saving that costs quality is none. -/
def Comparison.status (comparison : Comparison) : VerdictStatus :=
  match classifySavings comparison.deltaPerRequest comparison.currentRequests,
    comparison.outcomeQuality with
  | .verified, .degraded => .missed
  | status, _ => status

def verifySavings (site : Site) (rows : FindingTable) (traffic : Traffic) (now : Moment)
    (fingerprint : Str) : Option SavingsVerdict :=
  (rows.row? fingerprint).map fun finding =>
    let verdict : SavingsVerdict :=
      { fingerprint
        verification := finding.verification
        reopened := finding.status = .opened ∧ finding.resolvedAt.isSome }
    match finding.resolvedAt, finding.baselineRequests with
    | none, _ | _, none | _, some 0 => verdict
    | some resolvedAt, some baselineRequests =>
      -- a window of 0 days counts as none
      let days := match finding.baselineWindowDays with
        | none | some 0 => 7
        | some days => days
      let elapsed := now.instant - resolvedAt.instant
      if elapsed < days * 86400000000 then
        { verdict with
          status := .pending
          daysRemaining := some (roundEven 2 ((days * 86400000000 - elapsed : Int) / 86400000000)) }
      else
        let scope := finding.measuredScope site
        let current := getSubjectSpend site traffic.requests scope (windowAfter resolvedAt days)
        let measured := { verdict with
          baselineRequests := some baselineRequests
          currentRequests := some current.2 }
        if current.2 = 0 then { measured with status := .noTraffic }
        else
          let baseline := (finding.baselineCostUsd.getD 0, baselineRequests)
          let comparison := compareWindows site traffic scope resolvedAt days baseline current
          { measured with status := comparison.status, comparison := some comparison }

end BurnLens.Findings
