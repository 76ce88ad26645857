import BurnLens.Config
import BurnLens.Library.Numeral
import BurnLens.Library.Program
import BurnLens.Library.Table

/-! # Earned autonomy

The trust score of an agent, and the check that decides whether an action may be taken without
approval.  The case mapping of strings is a parameter.
-/

namespace BurnLens.Trust

open Library hiding lower

inductive AutonomyLevel where
  | restricted
  | standard
  | earnedAutonomy
deriving DecidableEq

def AutonomyLevel.value : AutonomyLevel → Str
  | restricted => "RESTRICTED"
  | standard => "STANDARD"
  | earnedAutonomy => "EARNED_AUTONOMY"

def highRiskActions : List Str :=
  ["change_iam", "modify_security_policy", "drop_database", "direct_push_main",
    "direct_push_master", "auto_merge_production", "secret_access"].map String.toList

structure AgentTrustProfile where
  agentId : Str
  workspaceId : Str
  trustScore : ℚ
  taskSuccessRate : ℚ
  acceptedOutcomeRate : ℚ
  rollbackRate : ℚ
  policyViolationRate : ℚ
  wasteRatio : ℚ
  totalTasks : Int
  totalSpendUsd : Usd
  autonomyLevel : AutonomyLevel
  isSparseHistory : Bool
  breakdown : Fields

structure AutonomyEligibilityCheck where
  agentId : Str
  workspaceId : Str
  actionType : Str
  estimatedCostUsd : Usd
  isAutonomousEligible : Bool
  requiresHumanApproval : Bool
  trustScore : ℚ
  autonomyLevel : AutonomyLevel
  reason : Str

/-! ## The calculator -/

/-- The evidence about one agent. -/
structure Evidence where
  agentId : Str
  workspaceId : Str
  taskSuccessRate : ℚ
  acceptedOutcomeRate : ℚ
  rollbackRate : ℚ
  policyViolationRate : ℚ
  wasteRatio : ℚ
  totalTasks : Int
  totalSpendUsd : Usd

def minimumTaskHistoryThreshold : Int := 10

def sparseHistoryPriorScore : ℚ := 30

/-- `max(0.0, min(bound, x))`. -/
def clamp (bound x : ℚ) : ℚ := max 0 (min bound x)

namespace Evidence

variable (e : Evidence)

def outcomePoints : ℚ := clamp 1 e.acceptedOutcomeRate * 35

def successPoints : ℚ := clamp 1 e.taskSuccessRate * 25

def violationPoints : ℚ := (1 - clamp 1 e.policyViolationRate) * 20

def rollbackPoints : ℚ := (1 - clamp 1 e.rollbackRate) * 10

def wastePoints : ℚ := (1 - clamp 1 e.wasteRatio) * 10

def rawScore : ℚ :=
  clamp 100
    (e.outcomePoints + e.successPoints + e.violationPoints + e.rollbackPoints + e.wastePoints)

def isSparse : Bool := e.totalTasks < minimumTaskHistoryThreshold

def effectiveScore : ℚ :=
  if e.isSparse then
    let confidenceFactor : ℚ := e.totalTasks / minimumTaskHistoryThreshold
    roundTo 1 (sparseHistoryPriorScore * (1 - confidenceFactor) + e.rawScore * confidenceFactor)
  else roundTo 1 e.rawScore

def autonomyLevel : AutonomyLevel :=
  if e.isSparse ∨ e.effectiveScore < 50 then .restricted
  else if e.effectiveScore < 80 then .standard
  else .earnedAutonomy

def number (x : ℚ) : Json := .float (.fin x)

def breakdown : Fields :=
  [("components", .obj
      [("accepted_outcome_points", number (roundTo 2 e.outcomePoints)),
        ("task_success_points", number (roundTo 2 e.successPoints)),
        ("policy_compliance_points", number (roundTo 2 e.violationPoints)),
        ("rollback_resistance_points", number (roundTo 2 e.rollbackPoints)),
        ("efficiency_points", number (roundTo 2 e.wastePoints))]),
    ("raw_score", number (roundTo 1 e.rawScore)),
    ("effective_score", number e.effectiveScore),
    ("sparse_dampened", .bool e.isSparse),
    ("minimum_history_required", .int minimumTaskHistoryThreshold)]

def calculateScore : AgentTrustProfile where
  agentId := e.agentId
  workspaceId := e.workspaceId
  trustScore := e.effectiveScore
  taskSuccessRate := roundTo 4 (clamp 1 e.taskSuccessRate)
  acceptedOutcomeRate := roundTo 4 (clamp 1 e.acceptedOutcomeRate)
  rollbackRate := roundTo 4 (clamp 1 e.rollbackRate)
  policyViolationRate := roundTo 4 (clamp 1 e.policyViolationRate)
  wasteRatio := roundTo 4 (clamp 1 e.wasteRatio)
  totalTasks := e.totalTasks
  totalSpendUsd := roundTo 4 e.totalSpendUsd
  autonomyLevel := e.autonomyLevel
  isSparseHistory := e.isSparse
  breakdown := e.breakdown

end Evidence

/-- The primary key of `agent_trust_profiles`. -/
def AgentTrustProfile.clashes (other profile : AgentTrustProfile) : Bool :=
  other.agentId = profile.agentId ∧ other.workspaceId = profile.workspaceId

def AgentTrustProfile.isOf (agentId workspaceId : Str) (profile : AgentTrustProfile) : Bool :=
  profile.agentId = agentId ∧ profile.workspaceId = workspaceId

structure TrustStore where
  profiles : List AgentTrustProfile
  audits : List AutonomyEligibilityCheck

def TrustStore.profile (store : TrustStore) (agentId workspaceId : Str) :
    Option AgentTrustProfile :=
  store.profiles.find? (AgentTrustProfile.isOf agentId workspaceId)

inductive Op where
  | getProfile (agentId workspaceId : Str)
  | saveProfile (profile : AgentTrustProfile)
  | recordEligibilityAudit (check : AutonomyEligibilityCheck)

abbrev Answer : Op → Type
  | .getProfile .. => Option AgentTrustProfile
  | _ => Unit

def handle : Handler TrustStore Op Answer Raised
  | store, .getProfile agentId workspaceId => .ok (store, store.profile agentId workspaceId)
  | store, .saveProfile profile =>
    if storable profile.totalTasks then
      .ok ({ store with profiles :=
          insertOrReplace AgentTrustProfile.clashes store.profiles profile }, ())
    else .error integerOverflow
  | store, .recordEligibilityAudit check =>
    .ok ({ store with audits := store.audits ++ [check] }, ())

theorem profile_saved {store : TrustStore} {profile : AgentTrustProfile} :
    TrustStore.profile
        ⟨insertOrReplace AgentTrustProfile.clashes store.profiles profile, store.audits⟩
        profile.agentId profile.workspaceId = some profile := by
  apply find?_insertOrReplace_self
  · simp [AgentTrustProfile.isOf]
  · exact fun other _ its => its

/-! ## The engine -/

def evaluateAgentTrust (e : Evidence) : Program Op Answer Raised AgentTrustProfile := do
  Program.perform (Op.saveProfile e.calculateScore)
  return e.calculateScore

/-- The arguments of `check_autonomy_eligibility`. -/
structure Action where
  agentId : Str
  workspaceId : Str
  actionType : Str
  estimatedCostUsd : Usd
  isReversible : Bool := true
  maxAutonomousSpend : Usd := 5

namespace Action

variable (a : Action)

/-- No history: the evidence for an agent without a profile. -/
def noEvidence : Evidence := ⟨a.agentId, a.workspaceId, 0, 0, 0, 0, 0, 0, 0⟩

/-- The outcome of the five invariants, and its reason. -/
def eligibility (lower : Str → Str) (profile : AgentTrustProfile) : Bool × Str :=
  if lower (strip a.actionType) ∈ highRiskActions then
    (false, "Action '" ++ a.actionType ++
      "' is classified as HIGH-RISK. Mandatory human approval required.")
  else if a.isReversible = false then (false, "Irreversible action requires human approval.")
  else if a.estimatedCostUsd > a.maxAutonomousSpend then
    (false, "Estimated cost $" ++ fixed 2 a.estimatedCostUsd ++ " exceeds autonomous cap of $" ++
      fixed 2 a.maxAutonomousSpend ++ ".")
  else if profile.autonomyLevel ≠ .earnedAutonomy then
    (false, "Agent autonomy level is '" ++ profile.autonomyLevel.value ++ "' (trust score: " ++
      fixed 1 profile.trustScore ++
      "). EARNED_AUTONOMY tier (>= 80.0) is required for autonomous execution.")
  else
    (true, "Autonomous permission granted: Trusted agent (score: " ++ fixed 1 profile.trustScore ++
      "), low-risk reversible action, cost ($" ++ fixed 2 a.estimatedCostUsd ++
      ") within threshold.")

def check (lower : Str → Str) (profile : AgentTrustProfile) : AutonomyEligibilityCheck where
  agentId := a.agentId
  workspaceId := a.workspaceId
  actionType := a.actionType
  estimatedCostUsd := a.estimatedCostUsd
  isAutonomousEligible := (a.eligibility lower profile).1
  requiresHumanApproval := !(a.eligibility lower profile).1
  trustScore := profile.trustScore
  autonomyLevel := profile.autonomyLevel
  reason := (a.eligibility lower profile).2

theorem eligible_iff {a : Action} {lower : Str → Str} {profile : AgentTrustProfile} :
    (a.check lower profile).isAutonomousEligible = true ↔
      lower (strip a.actionType) ∉ highRiskActions ∧ a.isReversible = true ∧
        a.estimatedCostUsd ≤ a.maxAutonomousSpend ∧
        profile.autonomyLevel = .earnedAutonomy := by
  simp only [check, eligibility]
  split_ifs <;> simp_all

end Action

def checkAutonomyEligibility (lower : Str → Str) (a : Action) :
    Program Op Answer Raised AutonomyEligibilityCheck := do
  let stored ← Program.perform (Op.getProfile a.agentId a.workspaceId)
  let profile ← match stored with
    | some profile => pure profile
    | none => evaluateAgentTrust a.noEvidence
  Program.perform (Op.recordEligibilityAudit (a.check lower profile))
  return a.check lower profile

end BurnLens.Trust
