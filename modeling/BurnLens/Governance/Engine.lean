import BurnLens.Config
import BurnLens.Library.Fnmatch
import BurnLens.Library.Json
import BurnLens.Library.Numeral
import BurnLens.Library.Strictest

/-! # The governance engine

`evaluate_action` matches an action against the active rules of a workspace.  `lower` is `str.lower`;
the evaluation's id and its time are arguments.  Nothing evaluates a `condition_expression`.
-/

namespace BurnLens.Governance

open Library hiding lower

/-! ## Data models -/

inductive EnforcementMode where
  | observe
  | shadow
  | approvalRequired
  | enforced
  | autonomous
deriving DecidableEq

inductive PolicyDecision where
  | allow
  | deny
  | requireApproval
  | budgetExceeded
deriving DecidableEq

inductive RiskClassification where
  | low
  | medium
  | high
  | critical
deriving DecidableEq

structure PolicyRule where
  policyId : Str
  name : Str
  workspaceId : Str := "default"
  actionType : Str := "*"
  riskLevel : RiskClassification := .medium
  decisionIfMatched : PolicyDecision := .requireApproval
  conditionExpression : Str := "true"
  maxCostUsd : Option Flt := none
  targetPattern : Str := "*"
  version : Int := 1
  isActive : Bool := true
  createdAt : Time
  updatedAt : Time

/-- The texts that `effective_action_taken` may have. -/
inductive EffectiveAction where
  | allowedByShadowMode
  | blockedPendingApproval
  | proceed
  | denied
  | autonomousExecute
deriving DecidableEq

structure PolicyEvaluationRecord where
  evaluationId : Str
  workspaceId : Str
  agentId : Str
  taskId : Option Str
  runId : Option Str
  actionType : Str
  target : Str
  enforcementMode : EnforcementMode
  decision : PolicyDecision
  effectiveActionTaken : EffectiveAction
  matchedPolicyId : Option Str
  reason : Str
  costUsd : Flt
  contextMetadata : Fields
  evaluatedAt : Time

/-- The arguments of `evaluate_action`. -/
structure Action where
  workspaceId : Str
  agentId : Str
  actionType : Str
  target : Str := ""
  taskId : Option Str := none
  runId : Option Str := none
  costUsd : Flt := .fin 0
  contextMetadata : Option Fields := none

/-- `ON CONFLICT(policy_id) DO UPDATE`: the row that a rule replaces keeps its place and its creation,
and counts one version more. -/
def upsert (policyRules : List PolicyRule) (rule : PolicyRule) : List PolicyRule :=
  if rule.policyId ∈ policyRules.map (·.policyId) then
    policyRules.map fun row => if row.policyId = rule.policyId then
      { rule with version := row.version + 1, createdAt := row.createdAt } else row
  else policyRules ++ [rule]

/-- A NaN is stored as NULL, so that the rule has no limit. -/
def PolicyRule.asStored (rule : PolicyRule) : PolicyRule :=
  if rule.maxCostUsd = some .nan then { rule with maxCostUsd := none } else rule

def savePolicyRule (policyRules : List PolicyRule) (rule : PolicyRule) : List PolicyRule :=
  upsert policyRules rule.asStored

/-- The `WHERE` of `get_active_rules`. -/
def PolicyRule.selected (workspaceId : Str) (rule : PolicyRule) : Bool :=
  rule.isActive && (rule.workspaceId = workspaceId || rule.workspaceId = "*".toList ||
    (rule.workspaceId = "default".toList && workspaceId = "default".toList))

/-- What `get_active_rules` may return: `ORDER BY version DESC` leaves rules of one version in any
order. -/
structure ActiveRules (policyRules : List PolicyRule) (workspaceId : Str)
    (rules : List PolicyRule) : Prop where
  selected : rules.Perm (policyRules.filter (·.selected workspaceId))
  ordered : rules.Pairwise fun a b => b.version ≤ a.version

/-! ## Candidates -/

structure Candidate where
  rule : PolicyRule
  decision : PolicyDecision
  reason : Str

/-- `x > y`. -/
def exceeds : Flt → Flt → Bool
  | .nan, _ | _, .nan => false
  | .fin x, .fin y => y < x
  | .inf negative, .fin _ => !negative
  | .fin _, .inf negative => negative
  | .inf negative, .inf negative' => !negative && negative'

/-- `f"{x:.4f}"`. -/
def fixed4 : Flt → Str
  | .fin x => fixed 4 x
  | .inf negative => if negative then "-inf" else "inf"
  | .nan => "nan"

/-- The protected branch that a value names. -/
def protectedBranch : Json → Option Str
  | .str branch => if branch ∈ ["main".toList, "master".toList, "production".toList] then some branch
    else none
  | _ => none

section

variable (lower : Str → Str) (metadata : Fields) (action : Action)

/-- The body of the loop over the active rules: what it appends to the candidates. -/
def candidate (rule : PolicyRule) : Option Candidate :=
  if rule.actionType ≠ "*".toList ∧ lower rule.actionType ≠ lower action.actionType then none
  else if rule.targetPattern ≠ "*".toList ∧ !fnmatch action.target rule.targetPattern then none
  else
    match rule.maxCostUsd with
    | some maxCostUsd =>
      if exceeds action.costUsd maxCostUsd then
        some ⟨rule, .requireApproval, "Action cost $" ++ fixed4 action.costUsd ++
          " exceeds policy max $" ++ fixed4 maxCostUsd⟩
      else none
    | none =>
      let targetBranch := metadata.getD "target_branch" (.str action.target)
      -- a merge to another branch goes on to the general case
      match if rule.actionType = "merge_pr".toList then protectedBranch targetBranch else none with
      | some branch => some ⟨rule, rule.decisionIfMatched,
          "Merge to protected branch '" ++ branch ++ "' requires approval"⟩
      | none =>
        if rule.actionType = "change_iam".toList then
          some ⟨rule, rule.decisionIfMatched,
            "Direct IAM modifications by autonomous agents are disallowed"⟩
        else some ⟨rule, rule.decisionIfMatched,
          "Matched policy '" ++ rule.name ++ "' (" ++ rule.policyId ++ ")"⟩

end

def sortPriority : PolicyDecision → Nat
  | .deny => 0
  | .requireApproval => 1
  | .budgetExceeded => 2
  | .allow => 3

def effectiveAction (mode : EnforcementMode) (computedDecision : PolicyDecision) : EffectiveAction :=
  match mode with
  | .observe | .shadow => .allowedByShadowMode
  | .approvalRequired =>
    if computedDecision = .requireApproval ∨ computedDecision = .deny then .blockedPendingApproval
    else .proceed
  | .enforced => if computedDecision = .deny then .denied else .proceed
  | .autonomous => .autonomousExecute

/-- The record of `evaluate_action`, where `get_active_rules` returns these. -/
def evaluation (lower : Str → Str) (mode : EnforcementMode) (activeRules : List PolicyRule)
    (action : Action) (evalId : Str) (now : Time) : PolicyEvaluationRecord :=
  let metadata := action.contextMetadata.getD []
  let candidates := activeRules.filterMap (candidate lower metadata action)
  let sorted := candidates.insertionSort fun a b => sortPriority a.decision ≤ sortPriority b.decision
  let matched := sorted.head?
  let computedDecision := (matched.map (·.decision)).getD .allow
  { evaluationId := evalId
    workspaceId := action.workspaceId
    agentId := action.agentId
    taskId := action.taskId
    runId := action.runId
    actionType := action.actionType
    target := action.target
    enforcementMode := mode
    decision := computedDecision
    effectiveActionTaken := effectiveAction mode computedDecision
    matchedPolicyId := matched.map (·.rule.policyId)
    reason := (matched.map (·.reason)).getD "Default allow: no restricting policy matched"
    costUsd := action.costUsd
    contextMetadata := metadata
    evaluatedAt := now }

/-- `record_evaluation`: a NaN cost is stored as NULL, which the column refuses. -/
def recordEvaluation (policyEvaluations : List PolicyEvaluationRecord)
    (record : PolicyEvaluationRecord) : Except Raised (List PolicyEvaluationRecord) :=
  if record.costUsd = .nan then
    .error ⟨"IntegrityError", "NOT NULL constraint failed: policy_evaluations.cost_usd"⟩
  else if record.evaluationId ∈ policyEvaluations.map (·.evaluationId) then
    .error ⟨"IntegrityError", "UNIQUE constraint failed: policy_evaluations.evaluation_id"⟩
  else .ok (policyEvaluations ++ [record])

/-- `evaluate_action`: the record, and the audit log with it. -/
def evaluateAction (lower : Str → Str) (mode : EnforcementMode) (activeRules : List PolicyRule)
    (action : Action) (evalId : Str) (now : Time) (policyEvaluations : List PolicyEvaluationRecord) :
    Except Raised (PolicyEvaluationRecord × List PolicyEvaluationRecord) := do
  let record := evaluation lower mode activeRules action evalId now
  let policyEvaluations ← recordEvaluation policyEvaluations record
  return (record, policyEvaluations)

theorem evaluateAction_ok {lower : Str → Str} {mode : EnforcementMode} {activeRules : List PolicyRule}
    {action : Action} {evalId : Str} {now : Time} {log log' : List PolicyEvaluationRecord}
    {record : PolicyEvaluationRecord}
    (answered : evaluateAction lower mode activeRules action evalId now log = .ok (record, log')) :
    record = evaluation lower mode activeRules action evalId now := by
  simp only [evaluateAction, recordEvaluation] at answered
  split_ifs at answered <;> cases answered
  rfl

theorem evaluateAction_answers {lower : Str → Str} {mode : EnforcementMode}
    {activeRules : List PolicyRule} {action : Action} {evalId : Str} {now : Time}
    {log : List PolicyEvaluationRecord} :
    (∃ answer, evaluateAction lower mode activeRules action evalId now log = .ok answer) ↔
      action.costUsd ≠ .nan ∧ evalId ∉ log.map (·.evaluationId) := by
  have cost : (evaluation lower mode activeRules action evalId now).costUsd = action.costUsd := rfl
  have id : (evaluation lower mode activeRules action evalId now).evaluationId = evalId := rfl
  simp only [evaluateAction, recordEvaluation, cost, id]
  by_cases nan : action.costUsd = .nan
  · simp [nan, bind, Except.bind]
  · by_cases known : evalId ∈ log.map (·.evaluationId)
    · simp only [if_neg nan, if_pos known]
      simp [known, bind, Except.bind]
    · simp only [if_neg nan, if_neg known]
      exact iff_of_true ⟨_, rfl⟩ ⟨nan, known⟩

end BurnLens.Governance
