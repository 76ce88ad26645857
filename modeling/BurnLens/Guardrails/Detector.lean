import BurnLens.Config
import BurnLens.Library.Numeral

/-! # Guardrail detectors

What a runtime guardrail is asked about, and the rules that answer it.  The case mapping
`lower` of strings is a parameter.  Amounts of money are exact.
-/

namespace BurnLens.Guardrails

open Library hiding lower

inductive GuardrailDecisionType where
  | allow
  | pause
  | stop
  | deny
deriving DecidableEq

inductive GuardrailFailureType where
  | none
  | retryStorm
  | hardBudgetExceeded
  | runawayTask
  | repeatedToolError
  | forbiddenAction
deriving DecidableEq

inductive TaskLifecycleState where
  | active
  | paused
  | stopped
  | completed
deriving DecidableEq

def TaskLifecycleState.value : TaskLifecycleState → Str
  | active => "ACTIVE"
  | paused => "PAUSED"
  | stopped => "STOPPED"
  | completed => "COMPLETED"

inductive FailSafeMode where
  | failOpen
  | failClosed
deriving DecidableEq

structure GuardrailPolicy where
  policyId : Str
  workspaceId : Str
  name : Str := "Default Runtime Guardrails"
  maxRetries : Int := 3
  hardBudgetUsd : Usd := 25
  maxConsecutiveToolErrors : Int := 3
  maxTaskRequests : Int := 50
  forbiddenActions : List Str :=
    ["change_iam", "drop_database", "direct_push_main", "auto_merge"].map String.toList
  failSafeMode : FailSafeMode := .failClosed
  version : Int := 1
  isActive : Bool := true

structure RuntimeTelemetryEvent where
  eventId : Str
  workspaceId : Str
  agentId : Str
  taskId : Str
  actionType : Str
  costUsd : Usd := 0
  isRetry : Bool := false
  isToolError : Bool := false

structure TaskMetrics where
  totalCostUsd : Usd := 0
  retryCount : Nat := 0
  consecutiveToolErrors : Nat := 0
  requestCount : Nat := 0
deriving DecidableEq

/-- The metrics a decision quotes: none, the stored spend, or all of them. -/
inductive CurrentMetrics where
  | empty
  | spend (totalCostUsd : Usd)
  | snapshot (metrics : TaskMetrics) (actionType : Str)

structure Threshold where
  hardBudgetUsd : Usd
  maxRetries : Int
  maxConsecutiveToolErrors : Int
  maxTaskRequests : Int
  forbiddenActions : List Str

structure GuardrailDecision where
  workspaceId : Str
  agentId : Str
  taskId : Str
  decision : GuardrailDecisionType
  failureType : GuardrailFailureType
  reason : Str
  currentMetrics : CurrentMetrics := .empty
  threshold : Option Threshold := none

/-! ## Rules

A rule returns the reason it found, if any. -/

variable (lower : Str → Str)

def detectForbiddenAction (actionType : Str) (forbiddenActions : List Str) : Option Str :=
  if forbiddenActions.any fun forbidden =>
      lower (strip actionType) = lower (strip forbidden) then
    some ("Action '" ++ actionType ++ "' is prohibited by security policy (forbidden list).")
  else none

def detectHardBudgetExceeded (currentCost maxBudget : Usd) : Option Str :=
  if maxBudget < currentCost then
    some ("Hard budget of $" ++ fixed 2 maxBudget ++ " exceeded. Total task spend reached $" ++
      fixed 2 currentCost ++ ".")
  else none

/-- A count that has come up to its limit, with the text around both. -/
def detectReached (count : Nat) (limit : Int) (before between after : Str) : Option Str :=
  if limit ≤ count then
    some (before ++ decimal count ++ between ++ decimal limit ++ after)
  else none

def detectRetryStorm (retries : Nat) (maxRetries : Int) : Option Str :=
  detectReached retries maxRetries "Retry storm detected: task accumulated "
    " retries (threshold: " ")."

def detectRepeatedToolErrors (consecutiveErrors : Nat) (maxConsecutiveErrors : Int) :
    Option Str :=
  detectReached consecutiveErrors maxConsecutiveErrors "Repeated tool failure detected: "
    " consecutive errors (threshold: " ")."

def detectRunawayTask (requestCount : Nat) (maxRequests : Int) : Option Str :=
  detectReached requestCount maxRequests "Runaway task loop detected: accumulated "
    " requests without completion (threshold: " ")."

def TaskMetrics.after (metrics : TaskMetrics) (telemetry : RuntimeTelemetryEvent) :
    TaskMetrics where
  totalCostUsd := metrics.totalCostUsd + telemetry.costUsd
  retryCount := metrics.retryCount + if telemetry.isRetry then 1 else 0
  consecutiveToolErrors :=
    metrics.consecutiveToolErrors + if telemetry.isToolError then 1 else 0
  requestCount := metrics.requestCount + 1

def GuardrailPolicy.threshold (policy : GuardrailPolicy) : Threshold where
  hardBudgetUsd := policy.hardBudgetUsd
  maxRetries := policy.maxRetries
  maxConsecutiveToolErrors := policy.maxConsecutiveToolErrors
  maxTaskRequests := policy.maxTaskRequests
  forbiddenActions := policy.forbiddenActions

/-- What the rules find, in their order of precedence. -/
def findings (current : TaskMetrics) (actionType : Str) (policy : GuardrailPolicy) :
    List (GuardrailDecisionType × GuardrailFailureType × Option Str) :=
  [(.deny, .forbiddenAction, detectForbiddenAction lower actionType policy.forbiddenActions),
    (.stop, .hardBudgetExceeded,
      detectHardBudgetExceeded current.totalCostUsd policy.hardBudgetUsd),
    (.pause, .retryStorm, detectRetryStorm current.retryCount policy.maxRetries),
    (.pause, .repeatedToolError,
      detectRepeatedToolErrors current.consecutiveToolErrors policy.maxConsecutiveToolErrors),
    (.pause, .runawayTask, detectRunawayTask current.requestCount policy.maxTaskRequests)]

/-- The first rule that found something; if none did, the telemetry is in bounds. -/
def firstFinding :
    List (GuardrailDecisionType × GuardrailFailureType × Option Str) →
      GuardrailDecisionType × GuardrailFailureType × Str
  | [] => (.allow, .none, "Telemetry within normal operational and economic boundaries.")
  | (decision, failure, some reason) :: _ => (decision, failure, reason)
  | (_, _, none) :: rest => firstFinding rest

def evaluate (telemetry : RuntimeTelemetryEvent) (taskMetrics : TaskMetrics)
    (policy : GuardrailPolicy) : GuardrailDecision :=
  let current := taskMetrics.after telemetry
  let (decision, failureType, reason) :=
    firstFinding (findings lower current telemetry.actionType policy)
  { workspaceId := telemetry.workspaceId
    agentId := telemetry.agentId
    taskId := telemetry.taskId
    decision, failureType, reason
    currentMetrics :=
      .snapshot { current with totalCostUsd := roundTo 4 current.totalCostUsd }
        telemetry.actionType
    threshold := policy.threshold }

def GuardrailPolicy.forbids (policy : GuardrailPolicy) (actionType : Str) : Prop :=
  ∃ forbidden ∈ policy.forbiddenActions, lower (strip actionType) = lower (strip forbidden)

instance (policy : GuardrailPolicy) (actionType : Str) :
    Decidable (policy.forbids lower actionType) :=
  inferInstanceAs (Decidable (∃ forbidden ∈ policy.forbiddenActions, _))

variable {lower} {telemetry : RuntimeTelemetryEvent} {metrics : TaskMetrics}
  {policy : GuardrailPolicy}

theorem detectForbiddenAction_isSome {actionType : Str} :
    (detectForbiddenAction lower actionType policy.forbiddenActions).isSome ↔
      policy.forbids lower actionType := by
  have listed : policy.forbids lower actionType ↔
      policy.forbiddenActions.any (fun forbidden =>
        lower (strip actionType) = lower (strip forbidden)) = true := by
    simp only [GuardrailPolicy.forbids, List.any_eq_true, decide_eq_true_eq]
  rw [listed, detectForbiddenAction]
  split <;> next found => simp only [found, Option.isSome_some, Option.isSome_none]

theorem detectForbiddenAction_eq_none {actionType : Str}
    (permitted : ¬ policy.forbids lower actionType) :
    detectForbiddenAction lower actionType policy.forbiddenActions = none := by
  rw [← Option.not_isSome_iff_eq_none, detectForbiddenAction_isSome]
  exact permitted

theorem detectHardBudgetExceeded_isSome {cost budget : Usd} (exceeded : budget < cost) :
    (detectHardBudgetExceeded cost budget).isSome := by
  rw [detectHardBudgetExceeded, if_pos exceeded]
  rfl

theorem evaluate_deny (forbidden : policy.forbids lower telemetry.actionType) :
    (evaluate lower telemetry metrics policy).decision = .deny := by
  obtain ⟨reason, found⟩ := Option.isSome_iff_exists.mp (detectForbiddenAction_isSome.mpr forbidden)
  simp only [evaluate, findings, found, firstFinding]

theorem evaluate_stop (permitted : ¬ policy.forbids lower telemetry.actionType)
    (exceeded : policy.hardBudgetUsd < metrics.totalCostUsd + telemetry.costUsd) :
    (evaluate lower telemetry metrics policy).decision = .stop := by
  have isExceeded : policy.hardBudgetUsd < (metrics.after telemetry).totalCostUsd := exceeded
  obtain ⟨reason, found⟩ :=
    Option.isSome_iff_exists.mp (detectHardBudgetExceeded_isSome isExceeded)
  simp only [evaluate, findings, detectForbiddenAction_eq_none permitted, found, firstFinding]

end BurnLens.Guardrails
