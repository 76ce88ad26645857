import BurnLens.Trust.Engine
import BurnLens.Verification.Engine

/-! # The autonomous control plane

One optimization cycle as a program over the stores of autonomy, trust and verification, and
the other calls that may run beside it.  Each awaited operation is a transaction of its own.
-/

namespace BurnLens.Autonomy

open Library hiding lower
open Trust Verification

inductive CanaryStatus where
  | proposed
  | canaryActive
  | verifiedExpanded
  | rolledBack
  | aborted
deriving DecidableEq

inductive AutonomousLoopStage where
  | detect
  | investigate
  | simulate
  | policyCheck
  | canaryAct
  | observe
  | verify
  | expand
  | rollback
  | trustUpdate
deriving DecidableEq

structure AutonomousOptimizationPlan where
  planId : Str
  workspaceId : Str
  agentId : Str
  recommendationId : Str
  category : Str
  targetConfig : Fields
  canaryPercentage : ℚ := 10
  maxCanarySpendUsd : Usd := 5
  canaryStatus : CanaryStatus := .proposed
  isKillSwitched : Bool := false

structure AuditEntry where
  stage : AutonomousLoopStage
  action : Str
  details : Fields

structure AuditEvent where
  planId : Str
  workspaceId : Str
  entry : AuditEntry

structure KillSwitch where
  workspaceId : Str
  isDisabled : Bool
  reason : Str
  disabledBy : Str

structure AutonomousLoopResult where
  planId : Str
  workspaceId : Str
  agentId : Str
  recommendationId : Str
  finalStatus : CanaryStatus
  initialSavingsProjected : Usd
  verifiedSavingsRealized : Usd
  qualityChange : ℚ
  expanded : Bool
  rolledBack : Bool
  updatedTrustScore : ℚ
  auditTimeline : List AuditEntry

/-! ## The stores -/

/-- The primary key of `autonomous_plans`. -/
def AutonomousOptimizationPlan.clashes (other plan : AutonomousOptimizationPlan) : Bool :=
  other.planId = plan.planId

/-- The primary key of `workspace_kill_switches`. -/
def KillSwitch.clashes (other switch : KillSwitch) : Bool :=
  other.workspaceId = switch.workspaceId

def KillSwitch.isOf (workspaceId : Str) (switch : KillSwitch) : Bool :=
  switch.workspaceId = workspaceId

structure World where
  plans : List AutonomousOptimizationPlan
  auditTrail : List AuditEvent
  killSwitches : List KillSwitch
  trust : TrustStore
  verification : VerificationStore

def World.killSwitched (w : World) (workspaceId : Str) : Bool :=
  match w.killSwitches.find? (KillSwitch.isOf workspaceId) with
  | some switch => switch.isDisabled
  | none => false

def World.setStatus (w : World) (planId : Str) (status : CanaryStatus) :
    List AutonomousOptimizationPlan :=
  w.plans.map fun plan =>
    if plan.planId = planId then { plan with canaryStatus := status } else plan

inductive Op where
  | trust (op : Trust.Op)
  | verification (op : Verification.Op)
  | savePlan (plan : AutonomousOptimizationPlan)
  | updatePlanStatus (planId : Str) (status : CanaryStatus)
  | recordAuditEvent (event : AuditEvent)
  | setWorkspaceKillSwitch (switch : KillSwitch)
  | isWorkspaceKillSwitched (workspaceId : Str)

abbrev Answer : Op → Type
  | .trust op => Trust.Answer op
  | .verification op => Verification.Answer op
  | .isWorkspaceKillSwitched _ => Bool
  | _ => Unit

def handle (h : Hashing) : Handler World Op Answer Raised
  | w, .trust op =>
    (Trust.handle w.trust op).map fun result => ({ w with trust := result.1 }, result.2)
  | w, .verification op =>
    (h.handle w.verification op).map fun result => ({ w with verification := result.1 }, result.2)
  | w, .savePlan plan =>
    .ok ({ w with plans :=
        insertOrReplace AutonomousOptimizationPlan.clashes w.plans plan }, ())
  | w, .updatePlanStatus planId status =>
    .ok ({ w with plans := w.setStatus planId status }, ())
  | w, .recordAuditEvent event => .ok ({ w with auditTrail := w.auditTrail ++ [event] }, ())
  | w, .setWorkspaceKillSwitch switch =>
    .ok ({ w with killSwitches := insertOrReplace KillSwitch.clashes w.killSwitches switch }, ())
  | w, .isWorkspaceKillSwitched workspaceId => .ok (w, w.killSwitched workspaceId)

section

variable {h : Hashing} {w w' : World}

theorem handle_trust {op : Trust.Op} {answer : Trust.Answer op}
    (handled : handle h w (.trust op) = .ok (w', answer)) :
    ∃ store, Trust.handle w.trust op = .ok (store, answer) ∧ w' = { w with trust := store } := by
  simp only [handle] at handled
  cases answered : Trust.handle w.trust op with
  | error => simp [answered, Except.map] at handled
  | ok result =>
    rw [answered] at handled
    cases handled
    exact ⟨result.1, rfl, rfl⟩

theorem handle_verification {op : Verification.Op} {answer : Verification.Answer op}
    (handled : handle h w (.verification op) = .ok (w', answer)) :
    ∃ store, h.handle w.verification op = .ok (store, answer) ∧
      w' = { w with verification := store } := by
  simp only [handle] at handled
  cases answered : h.handle w.verification op with
  | error => simp [answered, Except.map] at handled
  | ok result =>
    rw [answered] at handled
    cases handled
    exact ⟨result.1, rfl, rfl⟩

variable {op : Op} {answer : Answer op}

theorem trust_of_handle (handled : handle h w op = .ok (w', answer)) :
    w'.trust = w.trust ∨ ∃ trustOp, op = .trust trustOp := by
  cases op with
  | trust op => exact Or.inr ⟨op, rfl⟩
  | verification op => obtain ⟨_, -, rfl⟩ := handle_verification handled; exact Or.inl rfl
  | _ => cases handled; exact Or.inl rfl

end

abbrev Call (α : Type) := Program Op Answer Raised α

def Call.ofTrust {α : Type} : Program Trust.Op Trust.Answer Raised α → Call α :=
  Program.lift .trust fun _ answer => answer

def Call.ofVerification {α : Type} :
    Program Verification.Op Verification.Answer Raised α → Call α :=
  Program.lift .verification fun _ answer => answer

/-! ## The cycle -/

/-- The arguments of `execute_optimization_cycle`, with the ids and instants that it draws. -/
structure Cycle where
  workspaceId : Str
  agentId : Str
  recommendationId : Str
  category : Str
  targetConfig : Fields
  projectedSavingUsd : Usd
  baselineCostUsd : Usd
  baselineRequests : Int
  baselineAcceptedOutcomes : Int
  postChangeCostUsd : Usd
  postChangeRequests : Int
  postChangeAcceptedOutcomes : Int
  canaryPercentage : ℚ := 10
  maxCanarySpendUsd : Usd := 5
  planId : Str
  snapshotId : Str
  snapshotAt : Time
  verificationId : Str
  verifiedAt : Time
  -- whether a baseline cost of 0 is `-0.0`
  negativeZeroCost : Bool := false

namespace Cycle

variable (c : Cycle)

def log (timeline : List AuditEntry) (stage : AutonomousLoopStage) (action : Str)
    (details : Fields) : Call (List AuditEntry) := do
  Program.perform (Op.recordAuditEvent ⟨c.planId, c.workspaceId, stage, action, details⟩)
  return timeline ++ [⟨stage, action, details⟩]

def aborted (updatedTrustScore : ℚ) (auditTimeline : List AuditEntry) : AutonomousLoopResult where
  planId := c.planId
  workspaceId := c.workspaceId
  agentId := c.agentId
  recommendationId := c.recommendationId
  finalStatus := .aborted
  initialSavingsProjected := c.projectedSavingUsd
  verifiedSavingsRealized := 0
  qualityChange := 0
  expanded := false
  rolledBack := false
  updatedTrustScore := updatedTrustScore
  auditTimeline := auditTimeline

/-- Step 4: the caller's spend limit is both the estimate and the cap. -/
def action : Action where
  agentId := c.agentId
  workspaceId := c.workspaceId
  actionType := c.category
  estimatedCostUsd := c.maxCanarySpendUsd
  isReversible := true
  maxAutonomousSpend := c.maxCanarySpendUsd

def plan : AutonomousOptimizationPlan where
  planId := c.planId
  workspaceId := c.workspaceId
  agentId := c.agentId
  recommendationId := c.recommendationId
  category := c.category
  targetConfig := c.targetConfig
  canaryPercentage := min c.canaryPercentage 10
  maxCanarySpendUsd := c.maxCanarySpendUsd
  canaryStatus := .canaryActive

def baseline : Baseline where
  recommendationId := c.recommendationId
  workspaceId := c.workspaceId
  baselineCostUsd := c.baselineCostUsd
  baselineRequests := c.baselineRequests
  baselineAcceptedOutcomes := c.baselineAcceptedOutcomes
  snapshotId := c.snapshotId
  createdAt := c.snapshotAt
  negativeZeroCost := c.negativeZeroCost

def observation : Observation where
  recommendationId := c.recommendationId
  workspaceId := c.workspaceId
  projectedSavingUsd := c.projectedSavingUsd
  postChangeCostUsd := c.postChangeCostUsd
  postChangeRequests := c.postChangeRequests
  postChangeAcceptedOutcomes := c.postChangeAcceptedOutcomes
  minSampleSize := 10
  verificationId := c.verificationId
  verifiedAt := c.verifiedAt

/-- The evidence of a cycle that ended in expansion. -/
def reinforcement : Evidence :=
  ⟨c.agentId, c.workspaceId, 98 / 100, 96 / 100, 0, 0, 2 / 100, 50, 100⟩

/-- The evidence of a cycle that ended in rollback. -/
def penalty : Evidence :=
  ⟨c.agentId, c.workspaceId, 90 / 100, 85 / 100, 8 / 100, 0, 5 / 100, 50, 100⟩

def settled (verification : SavingsVerificationRecord) (profile : AgentTrustProfile)
    (auditTimeline : List AuditEntry) : AutonomousLoopResult where
  planId := c.planId
  workspaceId := c.workspaceId
  agentId := c.agentId
  recommendationId := c.recommendationId
  finalStatus := if verification.verdict = .pass then .verifiedExpanded else .rolledBack
  initialSavingsProjected := c.projectedSavingUsd
  verifiedSavingsRealized := verification.actualSavingUsd
  qualityChange := verification.qualityChange
  expanded := verification.verdict = .pass
  rolledBack := verification.verdict ≠ .pass
  updatedTrustScore := profile.trustScore
  auditTimeline := auditTimeline

/-- Steps 8 and 9: expand or roll back, then update the trust. -/
def settle (verification : SavingsVerificationRecord) (timeline : List AuditEntry) :
    Call AutonomousLoopResult := do
  if verification.verdict = .pass then
    Program.perform (Op.updatePlanStatus c.planId .verifiedExpanded)
    let timeline ← c.log timeline .expand "EXPANDED_TO_100_PERCENT"
      [("realized_savings", .float (.fin verification.actualSavingUsd))]
    let profile ← Call.ofTrust (evaluateAgentTrust c.reinforcement)
    let timeline ← c.log timeline .trustUpdate "TRUST_SCORE_INCREASED"
      [("new_trust_score", .float (.fin profile.trustScore))]
    return c.settled verification profile timeline
  else
    Program.perform (Op.updatePlanStatus c.planId .rolledBack)
    let timeline ← c.log timeline .rollback "CANARY_AUTOMATICALLY_ROLLED_BACK"
      [("reason", .str verification.reason)]
    let profile ← Call.ofTrust (evaluateAgentTrust c.penalty)
    let timeline ← c.log timeline .trustUpdate "TRUST_SCORE_ADJUSTED_FOR_ROLLBACK"
      [("new_trust_score", .float (.fin profile.trustScore))]
    return c.settled verification profile timeline

def verify (h : Hashing) (timeline : List AuditEntry) : Call AutonomousLoopResult := do
  let verification ← Call.ofVerification (verifySavings h c.observation)
  let timeline ← c.log timeline .verify ("VERIFICATION_RESULT_" ++ verification.verdict.value)
    [("verdict", .str verification.verdict.value),
      ("actual_saving_usd", .float (.fin verification.actualSavingUsd)),
      ("quality_change", .float (.fin verification.qualityChange)),
      ("reason", .str verification.reason)]
  c.settle verification timeline

def observe (h : Hashing) (timeline : List AuditEntry) : Call AutonomousLoopResult := do
  let _ ← Call.ofVerification (recordBaseline c.baseline)
  let timeline ← c.log timeline .observe "OBSERVATION_COLLECTED"
    [("post_requests", .int c.postChangeRequests), ("post_cost", .float (.fin c.postChangeCostUsd))]
  c.verify h timeline

def deploy (h : Hashing) (timeline : List AuditEntry) : Call AutonomousLoopResult := do
  Program.perform (Op.savePlan c.plan)
  let timeline ← c.log timeline .canaryAct "CANARY_DEPLOYED"
    [("canary_percentage", .float (.fin c.plan.canaryPercentage)),
      ("max_spend", .float (.fin c.plan.maxCanarySpendUsd))]
  c.observe h timeline

def checkPolicy (lower : Str → Str) (h : Hashing) (timeline : List AuditEntry) :
    Call AutonomousLoopResult := do
  let eligibility ← Call.ofTrust (checkAutonomyEligibility lower c.action)
  if eligibility.isAutonomousEligible then
    let timeline ← c.log timeline .policyCheck "AUTONOMY_APPROVED"
      [("trust_score", .float (.fin eligibility.trustScore)),
        ("autonomy_level", .str eligibility.autonomyLevel.value)]
    c.deploy h timeline
  else
    let timeline ← c.log timeline .policyCheck "AUTONOMY_DENIED_HUMAN_APPROVAL_REQUIRED"
      [("reason", .str eligibility.reason), ("trust_score", .float (.fin eligibility.trustScore))]
    return c.aborted eligibility.trustScore timeline

/-- `execute_optimization_cycle`. -/
def execute (lower : Str → Str) (h : Hashing) : Call AutonomousLoopResult := do
  let killSwitched ← Program.perform (Op.isWorkspaceKillSwitched c.workspaceId)
  if killSwitched then
    let timeline ← c.log [] .detect "ABORTED_KILL_SWITCH"
      [("reason", .str "Workspace autonomous execution is globally disabled.")]
    return c.aborted 0 timeline
  else
    let timeline ← c.log [] .detect "ANOMALY_DETECTED"
      [("category", .str c.category), ("agent_id", .str c.agentId),
        ("recommendation_id", .str c.recommendationId)]
    let timeline ← c.log timeline .investigate "CAUSE_EXPLAINED"
      [("explanation", .str ("Investigated spend and performance patterns for " ++ c.category ++
        "."))]
    let timeline ← c.log timeline .simulate "OPTIMIZATION_SIMULATED"
      [("projected_saving_usd", .float (.fin c.projectedSavingUsd)),
        ("target_config", .obj c.targetConfig)]
    c.checkPolicy lower h timeline

end Cycle

inductive Request where
  | executeOptimizationCycle (c : Cycle)
  | setWorkspaceKillSwitch (switch : KillSwitch)
  | recordBaseline (b : Baseline)
  | verifySavings (o : Observation)
  | getBaselineSnapshot (recommendationId workspaceId : Str)

inductive Reply where
  | result (result : AutonomousLoopResult)
  | none
  | snapshot (snapshot : BaselineSnapshot)
  | record (record : SavingsVerificationRecord)
  | found (snapshot : Option BaselineSnapshot)

def Request.program (lower : Str → Str) (h : Hashing) : Request → Call Reply
  | executeOptimizationCycle c => do return .result (← c.execute lower h)
  | setWorkspaceKillSwitch switch => do
    Program.perform (Op.setWorkspaceKillSwitch switch)
    return .none
  | recordBaseline b => do return .snapshot (← Call.ofVerification (Verification.recordBaseline b))
  | verifySavings o => do return .record (← Call.ofVerification (Verification.verifySavings h o))
  | getBaselineSnapshot recommendationId workspaceId => do
    return .found (← Program.perform
      (Op.verification (.getBaselineSnapshot recommendationId workspaceId)))

abbrev Calls (Caller : Type) := Pool World Caller Op Answer Raised Reply

def start {Caller : Type} (lower : Str → Str) (h : Hashing) (w : World)
    (requests : Caller → Request) : Calls Caller :=
  ⟨w, fun i => (requests i).program lower h⟩

end BurnLens.Autonomy
