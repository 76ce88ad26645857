import BurnLens.Agents.Entities
import BurnLens.Cloud.Outcomes
import BurnLens.Library.Numeral
import BurnLens.Library.Reach

/-! # Agent economics

What an agent, a task, a run and a workflow spent, summed over the rows of the local database.
The four functions take the workspace as an optional argument, and an empty one for none.
-/

namespace BurnLens.Agents

open Library Cloud

/-- A row of `requests`; its tags are those that the client sent. -/
structure LedgerRow where
  timestamp : Str := []
  costUsd : ℚ := 0
  inputTokens : Int := 0
  outputTokens : Int := 0
  reasoningTokens : Int := 0
  cacheReadTokens : Int := 0
  cacheSavedUsd : ℚ := 0
  toolCalls : Int := 0
  statusCode : Int := 200
  agentId : Option Str := none
  workflowId : Option Str := none
  runId : Option Str := none
  taskId : Option Str := none
  workspaceId : Option Str := none
  tags : List (Str × Str) := []

structure Ledger where
  requests : List LedgerRow := []
  runs : List AgentRun := []
  actions : List AgentAction := []
  outcomes : List OutcomeRow := []

/-- `json_extract(tags, '$.tag')`. -/
def LedgerRow.tag (row : LedgerRow) (tag : Str) : Option Str := row.tags.lookup tag

/-- `column = ? OR json_extract(tags, '$.tag') = ?`. -/
def LedgerRow.names (row : LedgerRow) (column : LedgerRow → Option Str) (tag value : Str) : Bool :=
  column row = some value || row.tag tag = some value

/-- A condition that is added `if value:`. -/
def conditionIf (value : Option Str) (condition : Str → Bool) : Bool :=
  match value with
  | none | some [] => true
  | some text => condition text

def total {α : Type} {β : Type} [AddCommMonoid β] (amount : α → β) (rows : List α) : β :=
  (rows.map amount).sum

def retryWaste (requests : List LedgerRow) : ℚ :=
  total LedgerRow.costUsd (requests.filter fun row => 400 ≤ row.statusCode)

/-! ## Agents, tasks and workflows -/

/-- What a sum is about: the column and the tag of its requests, and which actions it counts. -/
structure Scope where
  column : LedgerRow → Option Str
  tag : Str
  value : Str
  about : List AgentRun → AgentAction → Bool
  mono : ∀ {runs runs' action}, runs ⊆ runs' → about runs action = true → about runs' action = true
  since : Option Str := none

/-- `run_id IN (SELECT run_id FROM agent_runs WHERE ...)`. -/
def ofRunsWhere (condition : AgentRun → Bool) (runs : List AgentRun) (action : AgentAction) : Bool :=
  runs.any fun run => condition run && run.runId = action.runId

theorem ofRunsWhere_mono {condition : AgentRun → Bool} {runs runs' : List AgentRun}
    {action : AgentAction} (subset : runs ⊆ runs')
    (counted : ofRunsWhere condition runs action = true) :
    ofRunsWhere condition runs' action = true := by
  obtain ⟨run, member, its⟩ := List.any_eq_true.mp counted
  exact List.any_eq_true.mpr ⟨run, subset member, its⟩

def agentScope (agentId : Str) (since : Option Str) : Scope where
  column := LedgerRow.agentId
  tag := "agent_id"
  value := agentId
  about := ofRunsWhere fun run => run.agentId = agentId
  mono := ofRunsWhere_mono
  since := since

def taskScope (taskId : Str) : Scope where
  column := LedgerRow.taskId
  tag := "task_id"
  value := taskId
  about _ action := action.taskId = taskId
  mono _ counted := counted

def workflowScope (workflowId : Str) (since : Option Str) : Scope where
  column := LedgerRow.workflowId
  tag := "workflow_id"
  value := workflowId
  about := ofRunsWhere fun run => run.workflowId = some workflowId
  mono := ofRunsWhere_mono
  since := since

namespace Scope

variable (scope : Scope) (workspaceId : Option Str)

def requestWhere (row : LedgerRow) : Bool :=
  row.names scope.column scope.tag scope.value &&
    conditionIf workspaceId (row.names LedgerRow.workspaceId "workspace_id") &&
    conditionIf scope.since fun since => !decide (row.timestamp < since)

def actionWhere (runs : List AgentRun) (action : AgentAction) : Bool :=
  scope.about runs action &&
    conditionIf workspaceId (fun workspaceId => action.workspaceId = workspaceId) &&
    conditionIf scope.since fun since => !decide (action.createdAt < since)

def requests (ledger : Ledger) : List LedgerRow :=
  ledger.requests.filter (scope.requestWhere workspaceId)

def actions (ledger : Ledger) : List AgentAction :=
  ledger.actions.filter (scope.actionWhere workspaceId ledger.runs)

end Scope

structure AgentEconomics where
  agentId : Str
  totalSpendUsd : ℚ
  modelSpendUsd : ℚ
  toolActionSpendUsd : ℚ
  retryWasteUsd : ℚ
  requestsCount : Nat
  actionsCount : Nat
  toolCallsCount : Int
  inputTokens : Int
  outputTokens : Int
  reasoningTokens : Int
  cacheReadTokens : Int
  cacheSavedUsd : ℚ
deriving DecidableEq

structure TaskEconomics where
  taskId : Str
  totalSpendUsd : ℚ
  modelSpendUsd : ℚ
  toolActionSpendUsd : ℚ
  retryWasteUsd : ℚ
  requestsCount : Nat
  actionsCount : Nat
  toolCallsCount : Int
  inputTokens : Int
  outputTokens : Int
deriving DecidableEq

structure WorkflowEconomics where
  workflowId : Str
  totalSpendUsd : ℚ
  modelSpendUsd : ℚ
  toolActionSpendUsd : ℚ
  retryWasteUsd : ℚ
  requestsCount : Nat
  actionsCount : Nat
  outcomesCount : Nat
  acceptedOutcomes : Nat
  rejectedOutcomes : Nat
  failedOutcomes : Nat
  costPerAcceptedOutcomeUsd : Option ℚ
deriving DecidableEq

/-- `get_agent_economics`, of the rows that it selects. -/
def agentEconomics (agentId : Str) (requests : List LedgerRow) (actions : List AgentAction) :
    AgentEconomics :=
  let totalModelSpend := total LedgerRow.costUsd requests
  let toolActionCost := total AgentAction.costUsd actions
  { agentId
    totalSpendUsd := roundTo 6 (totalModelSpend + toolActionCost)
    modelSpendUsd := roundTo 6 totalModelSpend
    toolActionSpendUsd := roundTo 6 toolActionCost
    retryWasteUsd := roundTo 6 (retryWaste requests)
    requestsCount := requests.length
    actionsCount := actions.length
    toolCallsCount := total LedgerRow.toolCalls requests
    inputTokens := total LedgerRow.inputTokens requests
    outputTokens := total LedgerRow.outputTokens requests
    reasoningTokens := total LedgerRow.reasoningTokens requests
    cacheReadTokens := total LedgerRow.cacheReadTokens requests
    cacheSavedUsd := roundTo 6 (total LedgerRow.cacheSavedUsd requests) }

def getAgentEconomics (ledger : Ledger) (agentId : Str) (workspaceId since : Option Str) :
    AgentEconomics :=
  let scope := agentScope agentId since
  agentEconomics agentId (scope.requests workspaceId ledger) (scope.actions workspaceId ledger)

/-- `get_task_economics`, of the rows that it selects. -/
def taskEconomics (taskId : Str) (requests : List LedgerRow) (actions : List AgentAction) :
    TaskEconomics :=
  let modelSpend := total LedgerRow.costUsd requests
  let toolActionCost := total AgentAction.costUsd actions
  { taskId
    totalSpendUsd := roundTo 6 (modelSpend + toolActionCost)
    modelSpendUsd := roundTo 6 modelSpend
    toolActionSpendUsd := roundTo 6 toolActionCost
    retryWasteUsd := roundTo 6 (retryWaste requests)
    requestsCount := requests.length
    actionsCount := actions.length
    toolCallsCount := total LedgerRow.toolCalls requests
    inputTokens := total LedgerRow.inputTokens requests
    outputTokens := total LedgerRow.outputTokens requests }

def getTaskEconomics (ledger : Ledger) (taskId : Str) (workspaceId : Option Str) : TaskEconomics :=
  let scope := taskScope taskId
  taskEconomics taskId (scope.requests workspaceId ledger) (scope.actions workspaceId ledger)

/-- `outcomes_by_status.get(status, 0)`. -/
def countStatus (status : OutcomeStatus) (outcomes : List OutcomeRow) : Nat :=
  outcomes.countP fun row => row.status = status

/-- `get_workflow_economics`, of the rows that it selects. -/
def workflowEconomics (workflowId : Str) (requests : List LedgerRow) (actions : List AgentAction)
    (outcomes : List OutcomeRow) : WorkflowEconomics :=
  let modelSpend := total LedgerRow.costUsd requests
  let toolActionCost := total AgentAction.costUsd actions
  let totalSpend := modelSpend + toolActionCost
  let acceptedCount := countStatus .accepted outcomes
  let rejectedCount := countStatus .rejected outcomes
  let failedCount := countStatus .failed outcomes
  { workflowId
    totalSpendUsd := roundTo 6 totalSpend
    modelSpendUsd := roundTo 6 modelSpend
    toolActionSpendUsd := roundTo 6 toolActionCost
    retryWasteUsd := roundTo 6 (retryWaste requests)
    requestsCount := requests.length
    actionsCount := actions.length
    outcomesCount := acceptedCount + rejectedCount + failedCount
    acceptedOutcomes := acceptedCount
    rejectedOutcomes := rejectedCount
    failedOutcomes := failedCount
    costPerAcceptedOutcomeUsd :=
      if 0 < acceptedCount then some (roundTo 6 (totalSpend / acceptedCount)) else none }

/-- `SELECT status FROM outcomes WHERE workflow_id = ?`. -/
def outcomesOf (ledger : Ledger) (workflowId : Str) : List OutcomeRow :=
  ledger.outcomes.filter fun row => row.workflowId = workflowId

def getWorkflowEconomics (ledger : Ledger) (workflowId : Str) (workspaceId since : Option Str) :
    WorkflowEconomics :=
  let scope := workflowScope workflowId since
  workflowEconomics workflowId (scope.requests workspaceId ledger)
    (scope.actions workspaceId ledger) (outcomesOf ledger workflowId)

/-! ## Runs -/

/-- `workspace_id = ? OR (workspace_id IS NULL AND ? = 'default')`. -/
def LedgerRow.inWorkspace (row : LedgerRow) (workspaceId : Str) : Bool :=
  row.workspaceId = some workspaceId || (row.workspaceId = none && workspaceId = "default")

/-- A row of `run_tree`: the id and the parent of a run. -/
abbrev TreeRow := Str × Option Str

def AgentRun.treeRow (run : AgentRun) : TreeRow := (run.runId, run.parentRunId)

def runTree (runs : List AgentRun) (runId workspaceId : Str) : List TreeRow :=
  let rows := (runs.filter fun run => run.workspaceId = workspaceId).map AgentRun.treeRow
  closure (fun known row => row.2 = some known.1) rows ((rows.filter fun row => row.1 = runId).dedup)

structure RunSpend where
  totalSpendUsd : ℚ
  modelSpendUsd : ℚ
  actionSpendUsd : ℚ
  requestsCount : Nat
  actionsCount : Nat
deriving DecidableEq

structure RunEconomics where
  runId : Str
  totalRollupSpendUsd : ℚ := 0
  directSpendUsd : ℚ := 0
  childrenSpendUsd : ℚ := 0
  retryWasteUsd : ℚ := 0
  childRunsCount : Nat := 0
  childrenBreakdown : List (Str × RunSpend) := []
deriving DecidableEq

def requestsOfRun (ledger : Ledger) (workspaceId runId : Str) : List LedgerRow :=
  ledger.requests.filter fun row =>
    row.names LedgerRow.runId "run_id" runId && row.inWorkspace workspaceId

def actionsOfRun (ledger : Ledger) (workspaceId runId : Str) : List AgentAction :=
  ledger.actions.filter fun action => action.runId = runId && action.workspaceId = workspaceId

/-- What a run spent itself, and what is told of a child. -/
def runTotal (ledger : Ledger) (workspaceId runId : Str) : ℚ :=
  total LedgerRow.costUsd (requestsOfRun ledger workspaceId runId) +
    total AgentAction.costUsd (actionsOfRun ledger workspaceId runId)

def runSpend (ledger : Ledger) (workspaceId runId : Str) : RunSpend :=
  let requests := requestsOfRun ledger workspaceId runId
  let actions := actionsOfRun ledger workspaceId runId
  { totalSpendUsd := roundTo 6 (runTotal ledger workspaceId runId)
    modelSpendUsd := roundTo 6 (total LedgerRow.costUsd requests)
    actionSpendUsd := roundTo 6 (total AgentAction.costUsd actions)
    requestsCount := requests.length
    actionsCount := actions.length }

def rootRun (runs : List AgentRun) (runId : Str) (workspaceId : Option Str) : Option AgentRun :=
  runs.find? fun run => run.runId = runId &&
    conditionIf workspaceId fun workspaceId => run.workspaceId = workspaceId

/-- `get_run_economics`, in the workspace of the run. -/
def runEconomics (ledger : Ledger) (runId workspaceId : Str) : RunEconomics :=
  let tree := (runTree ledger.runs runId workspaceId).map Prod.fst
  let allRunIds := if tree = [] then [runId] else tree
  let childRunIds := tree.filter fun child => child ≠ runId
  let directTotal := runTotal ledger workspaceId runId
  let totalChildrenSpend := total (runTotal ledger workspaceId) childRunIds
  let requests := ledger.requests.filter fun row =>
    (allRunIds.any fun id => row.names LedgerRow.runId "run_id" id) && row.inWorkspace workspaceId
  { runId
    totalRollupSpendUsd := roundTo 6 (directTotal + totalChildrenSpend)
    directSpendUsd := roundTo 6 directTotal
    childrenSpendUsd := roundTo 6 totalChildrenSpend
    retryWasteUsd := roundTo 6 (retryWaste requests)
    childRunsCount := childRunIds.length
    childrenBreakdown := childRunIds.map fun id => (id, runSpend ledger workspaceId id) }

def getRunEconomics (ledger : Ledger) (runId : Str) (workspaceId : Option Str) : RunEconomics :=
  match rootRun ledger.runs runId workspaceId with
  | none => { runId }
  | some root => runEconomics ledger runId root.workspaceId

end BurnLens.Agents
