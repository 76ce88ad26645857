import BurnLens.Agents.Economics
import BurnLens.Library.Ownership
import Mathlib.Data.List.Find

/-! # Agent economics across workspaces

What a workspace is told of an agent, a task or a workflow is the sum of its own rows exactly
where the queries select no row of another; what it is told of a run always is.
-/

namespace BurnLens.Agents

open Library

def LedgerRow.workspace (row : LedgerRow) : Str := row.workspaceId.getD "default"

/-- The rows of a workspace; outcomes, which have none, are of the default one. -/
def Ledger.of (ledger : Ledger) (workspaceId : Str) : Ledger where
  requests := ledger.requests.filter fun row => row.workspace = workspaceId
  runs := ledger.runs.filter fun run => run.workspaceId = workspaceId
  actions := ledger.actions.filter fun action => action.workspaceId = workspaceId
  outcomes := ledger.outcomes.filter fun _ => workspaceId = "default"

/-- The requests and the actions that the queries select are the workspace's own, and the runs for
    which they count the actions are. -/
def Scope.Confined (scope : Scope) (workspaceId : Str) (ledger : Ledger) : Prop :=
  (∀ row ∈ scope.requests (some workspaceId) ledger, row.workspace = workspaceId) ∧
    ∀ action ∈ scope.actions (some workspaceId) ledger, action.workspaceId = workspaceId ∧
      scope.about (ledger.of workspaceId).runs action = true

instance (scope : Scope) (workspaceId : Str) (ledger : Ledger) :
    Decidable (scope.Confined workspaceId ledger) :=
  inferInstanceAs (Decidable (_ ∧ _))

def OutcomesConfined (workflowId workspaceId : Str) (ledger : Ledger) : Prop :=
  ∀ row ∈ ledger.outcomes, row.workflowId = workflowId → workspaceId = "default"

instance (workflowId workspaceId : Str) (ledger : Ledger) :
    Decidable (OutcomesConfined workflowId workspaceId ledger) :=
  inferInstanceAs (Decidable (∀ row ∈ ledger.outcomes, _ → _))

/-- Asked for without a workspace, a run is of whatever workspace it is. -/
def RunConfined (runId workspaceId : Str) (ledger : Ledger) : Prop :=
  workspaceId = [] → ∀ run ∈ ledger.runs, run.runId = runId → run.workspaceId = workspaceId

/-! ## What the queries select of the workspace's own rows -/

section

variable {scope : Scope} {ledger ledger' : Ledger} {workspaceId : Str}

theorem Scope.requests_of : scope.requests (some workspaceId) (ledger.of workspaceId) =
    (scope.requests (some workspaceId) ledger).filter fun row => row.workspace = workspaceId := by
  simp only [Scope.requests, Ledger.of, List.filter_filter]
  apply List.filter_congr
  intro row _
  exact Bool.and_comm ..

theorem Scope.actions_of : scope.actions (some workspaceId) (ledger.of workspaceId) =
    (scope.actions (some workspaceId) ledger).filter fun action =>
      action.workspaceId = workspaceId && scope.about (ledger.of workspaceId).runs action := by
  have fewer : (ledger.of workspaceId).runs ⊆ ledger.runs := List.filter_subset_self _
  simp only [Scope.actions]
  rw [show (ledger.of workspaceId).actions = ledger.actions.filter fun action =>
    action.workspaceId = workspaceId from rfl, List.filter_filter, List.filter_filter]
  apply List.filter_congr
  intro action _
  cases counted : scope.about (ledger.of workspaceId).runs action with
  | false => simp [Scope.actionWhere, counted]
  | true => simp [Scope.actionWhere, counted, scope.mono fewer counted, Bool.and_comm]

theorem Scope.confined_iff : scope.Confined workspaceId ledger ↔
    (scope.requests (some workspaceId) ledger).length =
        (scope.requests (some workspaceId) (ledger.of workspaceId)).length ∧
      (scope.actions (some workspaceId) ledger).length =
        (scope.actions (some workspaceId) (ledger.of workspaceId)).length := by
  rw [Scope.requests_of, Scope.actions_of, length_filter_eq_iff, length_filter_eq_iff]
  simp only [Scope.Confined, decide_eq_true_eq, Bool.and_eq_true]

theorem Scope.Confined.requests_eq (confined : scope.Confined workspaceId ledger) :
    scope.requests (some workspaceId) ledger =
      scope.requests (some workspaceId) (ledger.of workspaceId) := by
  rw [Scope.requests_of, List.filter_eq_self.mpr]
  simpa using confined.1

theorem Scope.Confined.actions_eq (confined : scope.Confined workspaceId ledger) :
    scope.actions (some workspaceId) ledger =
      scope.actions (some workspaceId) (ledger.of workspaceId) := by
  rw [Scope.actions_of, List.filter_eq_self.mpr]
  simpa using confined.2

theorem outcomesOf_of {workflowId : Str} : outcomesOf (ledger.of workspaceId) workflowId =
    (outcomesOf ledger workflowId).filter fun _ => workspaceId = "default" := by
  simp only [outcomesOf, Ledger.of, List.filter_filter]
  apply List.filter_congr
  intro row _
  exact Bool.and_comm ..

theorem countStatus_add (outcomes : List Cloud.OutcomeRow) :
    countStatus .accepted outcomes + countStatus .rejected outcomes + countStatus .failed outcomes =
      outcomes.length := by
  induction outcomes with
  | nil => rfl
  | cons row outcomes inductionHypothesis =>
    simp only [countStatus, List.countP_cons, List.length_cons] at inductionHypothesis ⊢
    cases row.status <;> simp <;> omega

theorem outcomesConfined_iff {workflowId : Str} : OutcomesConfined workflowId workspaceId ledger ↔
    (outcomesOf ledger workflowId).length =
      (outcomesOf (ledger.of workspaceId) workflowId).length := by
  rw [outcomesOf_of, length_filter_eq_iff]
  simp only [OutcomesConfined, outcomesOf, List.mem_filter, decide_eq_true_eq, and_imp]

/-! ## Agents, tasks and workflows -/

theorem agent_confined (agentId workspaceId : Str) (since : Option Str) :
    ConfinedUnder (fun ledger => ledger.of workspaceId)
      (fun ledger => getAgentEconomics ledger agentId (some workspaceId) since)
      ((agentScope agentId since).Confined workspaceId) := by
  intro ledger
  constructor
  · intro same
    exact Scope.confined_iff.mpr
      ⟨congrArg AgentEconomics.requestsCount same, congrArg AgentEconomics.actionsCount same⟩
  · intro confined
    simp only [getAgentEconomics]
    rw [confined.requests_eq, confined.actions_eq]

theorem task_confined (taskId workspaceId : Str) :
    ConfinedUnder (fun ledger => ledger.of workspaceId)
      (fun ledger => getTaskEconomics ledger taskId (some workspaceId))
      ((taskScope taskId).Confined workspaceId) := by
  intro ledger
  constructor
  · intro same
    exact Scope.confined_iff.mpr
      ⟨congrArg TaskEconomics.requestsCount same, congrArg TaskEconomics.actionsCount same⟩
  · intro confined
    simp only [getTaskEconomics]
    rw [confined.requests_eq, confined.actions_eq]

theorem workflow_confined (workflowId workspaceId : Str) (since : Option Str) :
    ConfinedUnder (fun ledger => ledger.of workspaceId)
      (fun ledger => getWorkflowEconomics ledger workflowId (some workspaceId) since)
      (fun ledger => (workflowScope workflowId since).Confined workspaceId ledger ∧
        OutcomesConfined workflowId workspaceId ledger) := by
  intro ledger
  constructor
  · intro same
    constructor
    · exact Scope.confined_iff.mpr
        ⟨congrArg WorkflowEconomics.requestsCount same,
          congrArg WorkflowEconomics.actionsCount same⟩
    · have counts := congrArg WorkflowEconomics.outcomesCount same
      simp only [getWorkflowEconomics, workflowEconomics, countStatus_add] at counts
      exact outcomesConfined_iff.mpr counts
  · intro ⟨confined, outcomes⟩
    have kept : outcomesOf ledger workflowId = outcomesOf (ledger.of workspaceId) workflowId := by
      rw [outcomesOf_of, List.filter_eq_self.mpr]
      intro row selected
      obtain ⟨stored, its⟩ := List.mem_filter.mp selected
      exact decide_eq_true (outcomes row stored (of_decide_eq_true its))
    simp only [getWorkflowEconomics]
    rw [confined.requests_eq, confined.actions_eq, kept]

/-! ## Runs -/

theorem inWorkspace_iff {row : LedgerRow} :
    row.inWorkspace workspaceId = true ↔ row.workspace = workspaceId := by
  simp only [LedgerRow.inWorkspace, LedgerRow.workspace, Bool.or_eq_true, Bool.and_eq_true,
    decide_eq_true_eq]
  cases row.workspaceId with
  | none => simp only [reduceCtorEq, true_and, false_or, Option.getD_none, eq_comm]
  | some own => simp only [Option.some.injEq, reduceCtorEq, false_and, or_false, Option.getD_some]

theorem filter_requests_of (condition : LedgerRow → Bool) :
    ((ledger.of workspaceId).requests.filter fun row => condition row && row.inWorkspace workspaceId) =
      ledger.requests.filter fun row => condition row && row.inWorkspace workspaceId := by
  simp only [Ledger.of, List.filter_filter]
  apply List.filter_congr
  intro row _
  rw [Bool.eq_iff_iff]
  simp only [Bool.and_eq_true, inWorkspace_iff, decide_eq_true_eq]
  exact ⟨And.left, fun its => ⟨its, its.2⟩⟩

theorem actionsOfRun_of (runId : Str) : actionsOfRun (ledger.of workspaceId) workspaceId runId =
    actionsOfRun ledger workspaceId runId := by
  simp only [actionsOfRun, Ledger.of, List.filter_filter]
  apply List.filter_congr
  intro action _
  cases decide (action.workspaceId = workspaceId) <;> simp

theorem runTree_of (runId : Str) : runTree (ledger.of workspaceId).runs runId workspaceId =
    runTree ledger.runs runId workspaceId := by
  simp only [runTree, Ledger.of, List.filter_filter, Bool.and_self]

theorem runEconomics_of (runId : Str) : runEconomics (ledger.of workspaceId) runId workspaceId =
    runEconomics ledger runId workspaceId := by
  have total_of : runTotal (ledger.of workspaceId) workspaceId = runTotal ledger workspaceId := by
    funext id
    simp only [runTotal, requestsOfRun, filter_requests_of, actionsOfRun_of]
  have spend_of : runSpend (ledger.of workspaceId) workspaceId = runSpend ledger workspaceId := by
    funext id
    simp only [runSpend, total_of, requestsOfRun, filter_requests_of, actionsOfRun_of]
  simp only [runEconomics, runTree_of, total_of, spend_of, filter_requests_of]

theorem rootRun_of {runId : Str} (confined : RunConfined runId workspaceId ledger) :
    rootRun (ledger.of workspaceId).runs runId (some workspaceId) =
      rootRun ledger.runs runId (some workspaceId) := by
  rw [rootRun, rootRun, Ledger.of, List.find?_filter]
  apply List.find?_congr
  intro run stored
  rw [Bool.eq_iff_iff]
  cases workspaceId with
  | nil =>
    simp only [conditionIf, Bool.and_true, decide_eq_true_eq]
    exact ⟨And.right, fun its => ⟨confined rfl run stored its, its⟩⟩
  | cons first rest =>
    simp only [conditionIf, Bool.and_eq_true, decide_eq_true_eq]
    exact ⟨And.right, fun its => ⟨its.2, its⟩⟩

theorem run_confined {runId : Str} (confined : RunConfined runId workspaceId ledger) :
    getRunEconomics ledger runId (some workspaceId) =
      getRunEconomics (ledger.of workspaceId) runId (some workspaceId) := by
  simp only [getRunEconomics]
  rw [rootRun_of confined]
  cases found : rootRun ledger.runs runId (some workspaceId) with
  | none => rfl
  | some root =>
    rw [← rootRun_of confined] at found
    have own : root ∈ (ledger.of workspaceId).runs := List.mem_of_find?_eq_some found
    simp only [Ledger.of, List.mem_filter, decide_eq_true_eq] at own
    simp only [own.2, runEconomics_of]

/-- Agent economics across workspaces.  Of two ledgers with the same rows of the workspace, of
    which one is confined, the other gives the same result exactly where it is confined too. -/
theorem economics_confined (agree : ledger.of workspaceId = ledger'.of workspaceId) :
    (∀ agentId since, (agentScope agentId since).Confined workspaceId ledger' →
      (getAgentEconomics ledger agentId (some workspaceId) since =
          getAgentEconomics ledger' agentId (some workspaceId) since ↔
        (agentScope agentId since).Confined workspaceId ledger)) ∧
    (∀ taskId, (taskScope taskId).Confined workspaceId ledger' →
      (getTaskEconomics ledger taskId (some workspaceId) =
          getTaskEconomics ledger' taskId (some workspaceId) ↔
        (taskScope taskId).Confined workspaceId ledger)) ∧
    (∀ runId, RunConfined runId workspaceId ledger → RunConfined runId workspaceId ledger' →
      getRunEconomics ledger runId (some workspaceId) =
        getRunEconomics ledger' runId (some workspaceId)) ∧
    ∀ workflowId since, (workflowScope workflowId since).Confined workspaceId ledger' →
      OutcomesConfined workflowId workspaceId ledger' →
      (getWorkflowEconomics ledger workflowId (some workspaceId) since =
          getWorkflowEconomics ledger' workflowId (some workspaceId) since ↔
        (workflowScope workflowId since).Confined workspaceId ledger ∧
          OutcomesConfined workflowId workspaceId ledger) := by
  refine ⟨fun agentId since => ?_, fun taskId => ?_, fun runId confined confined' => ?_,
    fun workflowId since confined outcomes => ?_⟩
  · exact (agent_confined agentId workspaceId since).same_iff agree
  · exact (task_confined taskId workspaceId).same_iff agree
  · rw [run_confined confined, run_confined confined', agree]
  · exact (workflow_confined workflowId workspaceId since).same_iff agree ⟨confined, outcomes⟩

end

/-! ## Another workspace's rows -/

def acmeLedger : Ledger where
  requests := [{ agentId := some "bot", workspaceId := some "acme", costUsd := 1 }]
  runs := [{ runId := "run", agentId := "bot", workspaceId := "acme" }]

/-- Another workspace tags its request with this one. -/
def sharedLedger : Ledger :=
  { acmeLedger with
    requests := { agentId := some "bot", workspaceId := some "globex", costUsd := 9
                  tags := [("workspace_id", "acme")] } :: acmeLedger.requests
    outcomes := [
      { id := 1, outcomeId := "out", workflowId := "flow", status := .accepted
        businessValue := none, currency := none, eventTime := "2026-03-01T00:00:00+00:00"
        source := "cli", metadata := [] }] }

/-- Another workspace with rows of its own, for an agent of the same name. -/
def neighbourLedger : Ledger :=
  { acmeLedger with
    requests := { agentId := some "bot", workflowId := some "flow", workspaceId := some "globex"
                  costUsd := 9 } :: acmeLedger.requests
    runs := { runId := "other", agentId := "bot", workspaceId := "globex" } :: acmeLedger.runs }

/-- What acme is told of its agent, its task, its workflow and its run is the same with and without
    the rows of the neighbour; of the agent it is not the same with the rows that bear its tag. -/
theorem economics_of_acme :
    getAgentEconomics neighbourLedger "bot" (some "acme") none =
      getAgentEconomics acmeLedger "bot" (some "acme") none ∧
    getTaskEconomics neighbourLedger "task" (some "acme") =
      getTaskEconomics acmeLedger "task" (some "acme") ∧
    getRunEconomics sharedLedger "run" (some "acme") =
      getRunEconomics acmeLedger "run" (some "acme") ∧
    getWorkflowEconomics neighbourLedger "flow" (some "acme") none =
      getWorkflowEconomics acmeLedger "flow" (some "acme") none ∧
    getAgentEconomics sharedLedger "bot" (some "acme") none ≠
      getAgentEconomics acmeLedger "bot" (some "acme") none := by
  have named : ("acme" : Str) ≠ [] := by decide
  obtain ⟨agent, task, _, workflow⟩ := @economics_confined neighbourLedger acmeLedger "acme" rfl
  obtain ⟨sharedAgent, _, sharedRun, _⟩ := @economics_confined sharedLedger acmeLedger "acme" rfl
  have alone : (agentScope "bot" none).Confined "acme" acmeLedger := by decide +kernel
  refine ⟨(agent "bot" none alone).mpr (by decide +kernel),
    (task "task" (by decide +kernel)).mpr (by decide +kernel),
    sharedRun "run" (fun empty => absurd empty named) fun empty => absurd empty named,
    (workflow "flow" none (by decide +kernel) (by decide +kernel)).mpr (by decide +kernel),
    fun same => ?_⟩
  have confined := (sharedAgent "bot" none alone).mp same
  exact absurd confined (by decide +kernel)

/-- A workspace is charged for another's request and told of its outcome. -/
theorem globex_charged : sharedLedger.of "acme" = acmeLedger.of "acme" ∧
    getAgentEconomics sharedLedger "bot" (some "acme") none ≠
      getAgentEconomics acmeLedger "bot" (some "acme") none ∧
    getWorkflowEconomics sharedLedger "flow" (some "acme") none ≠
      getWorkflowEconomics acmeLedger "flow" (some "acme") none := by
  refine ⟨rfl, ?_, ?_⟩ <;> decide +kernel

end BurnLens.Agents
