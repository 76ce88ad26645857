import BurnLens.Library.Table

/-! # Agent entities

The tables of agents, workflows, runs, tasks and actions, and the six functions that write them.
An entity belongs to the workspace that registered it; a row may name an entity that is
registered later, or never.
-/

namespace BurnLens.Agents

open Library

/-! ## Rows -/

structure Agent where
  agentId : Str
  name : Str
  workspaceId : Str := "default"
  version : Str := "1.0.0"
  owner : Str := []
  environment : Str := "production"
  purpose : Str := []
  status : Str := "active"
  createdAt : Str := []

structure AgentWorkflow where
  workflowId : Str
  name : Str
  workspaceId : Str := "default"
  createdAt : Str := []

structure WorkflowRun where
  workflowRunId : Str
  workflowId : Str
  workspaceId : Str := "default"
  status : Str := "active"
  startedAt : Str := []
  completedAt : Option Str := none

structure AgentRun where
  runId : Str
  agentId : Str
  workflowId : Option Str := none
  workflowRunId : Option Str := none
  parentRunId : Option Str := none
  rootRunId : Option Str := none
  workspaceId : Str := "default"
  status : Str := "active"
  startedAt : Str := []
  completedAt : Option Str := none

structure AgentTask where
  taskId : Str
  runId : Str
  name : Str := []
  status : Str := "active"
  workspaceId : Str := "default"
  createdAt : Str := []
  completedAt : Option Str := none

structure AgentAction where
  actionId : Str
  taskId : Str
  runId : Str
  actionType : Str := "tool_call"
  toolName : Str := []
  status : Str := "completed"
  costUsd : ℚ := 0
  workspaceId : Str := "default"
  createdAt : Str := []

/-- The columns of `requests` that `insert_workflow_run` looks at. -/
structure RequestRow where
  workflowRunId : Option Str
  workspaceId : Option Str

structure Registry where
  agents : List Agent := []
  workflows : List AgentWorkflow := []
  workflowRuns : List WorkflowRun := []
  runs : List AgentRun := []
  tasks : List AgentTask := []
  actions : List AgentAction := []
  requests : List RequestRow := []

/-! ## The writers -/

/-- The row of the id, if there is one, is of another workspace. -/
def elsewhere {α : Type} (id workspace : α → Str) (rows : List α) (key workspaceId : Str) : Bool :=
  match rows.find? fun row => id row = key with
  | some existing => workspace existing ≠ workspaceId
  | none => false

def agentElsewhere (r : Registry) : Str → Str → Bool :=
  elsewhere Agent.agentId Agent.workspaceId r.agents

def workflowElsewhere (r : Registry) : Str → Str → Bool :=
  elsewhere AgentWorkflow.workflowId AgentWorkflow.workspaceId r.workflows

def runElsewhere (r : Registry) : Str → Str → Bool :=
  elsewhere AgentRun.runId AgentRun.workspaceId r.runs

/-- A check that is made `if value:`. -/
def ifGiven (value : Option Str) (check : Str → Bool) : Bool :=
  match value with
  | none | some [] => false
  | some text => check text

/-- `insert_agent`; an update keeps `created_at`. -/
def insertAgent (r : Registry) (agent : Agent) : Except Str Registry :=
  if agentElsewhere r agent.agentId agent.workspaceId then
    .error "agent_id is already registered to another workspace"
  else
    .ok
      { r with
        agents := upsert (fun old => old.agentId = agent.agentId)
          (fun old => if old.workspaceId = agent.workspaceId then
            { agent with createdAt := old.createdAt } else old) agent r.agents }

def insertAgentWorkflow (r : Registry) (workflow : AgentWorkflow) : Except Str Registry :=
  if workflowElsewhere r workflow.workflowId workflow.workspaceId then
    .error "workflow_id is already registered to another workspace"
  else
    .ok
      { r with
        workflows := upsert (fun old => old.workflowId = workflow.workflowId)
          (fun old => if old.workspaceId = workflow.workspaceId then workflow else old) workflow
          r.workflows }

/-- `insert_workflow_run`; the id is one within its workspace. -/
def insertWorkflowRun (r : Registry) (run : WorkflowRun) : Except Str Registry :=
  if workflowElsewhere r run.workflowId run.workspaceId then
    .error "workflow_id belongs to another workspace"
  else if (r.runs.any fun other => other.workflowRunId = some run.workflowRunId ∧
        other.workspaceId ≠ run.workspaceId) ∨
      r.requests.any fun request => request.workflowRunId = some run.workflowRunId ∧
        request.workspaceId.getD "default" ≠ run.workspaceId then
    .error "workflow_run_id is referenced by another workspace"
  else
    .ok
      { r with
        workflowRuns := upsert
          (fun old => old.workspaceId = run.workspaceId ∧ old.workflowRunId = run.workflowRunId)
          (fun _ => run) run r.workflowRuns }

def insertAgentRun (r : Registry) (run : AgentRun) : Except Str Registry :=
  if runElsewhere r run.runId run.workspaceId then
    .error "run_id is already registered to another workspace"
  else if ifGiven run.parentRunId fun parent => runElsewhere r parent run.workspaceId then
    .error "parent_run_id belongs to another workspace"
  else if r.runs.any fun other => other.parentRunId = some run.runId ∧
      other.workspaceId ≠ run.workspaceId then
    .error "run_id is referenced as a parent by another workspace"
  else if ifGiven run.workflowId fun workflow => workflowElsewhere r workflow run.workspaceId then
    .error "workflow_id belongs to another workspace"
  else if agentElsewhere r run.agentId run.workspaceId then
    .error "agent_id belongs to another workspace"
  else if ifGiven run.workflowRunId fun workflowRun =>
      !(r.workflowRuns.any fun other => other.workflowRunId = workflowRun ∧
        other.workspaceId = run.workspaceId) &&
        r.workflowRuns.any fun other => other.workflowRunId = workflowRun then
    .error "workflow_run_id belongs to another workspace"
  else
    .ok
      { r with
        runs := upsert (fun old => old.runId = run.runId)
          (fun old => if old.workspaceId = run.workspaceId then run else old) run r.runs }

def insertAgentTask (r : Registry) (task : AgentTask) : Except Str Registry :=
  .ok { r with tasks := insertOrReplace (fun old new => old.taskId = new.taskId) r.tasks task }

def insertAgentAction (r : Registry) (action : AgentAction) : Except Str Registry :=
  .ok { r with
    actions := insertOrReplace (fun old new => old.actionId = new.actionId) r.actions action }

inductive Call where
  | agent (row : Agent)
  | workflow (row : AgentWorkflow)
  | workflowRun (row : WorkflowRun)
  | run (row : AgentRun)
  | task (row : AgentTask)
  | action (row : AgentAction)

def insert (r : Registry) : Call → Except Str Registry
  | .agent row => insertAgent r row
  | .workflow row => insertAgentWorkflow r row
  | .workflowRun row => insertWorkflowRun r row
  | .run row => insertAgentRun r row
  | .task row => insertAgentTask r row
  | .action row => insertAgentAction r row

/-- A call that raises leaves the tables as they are. -/
def call (r : Registry) (c : Call) : Registry :=
  match insert r c with
  | .ok r' => r'
  | .error _ => r

end BurnLens.Agents
