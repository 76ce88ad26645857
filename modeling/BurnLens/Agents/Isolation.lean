import BurnLens.Agents.Entities
import BurnLens.Library.Machine
import BurnLens.Library.Ownership

/-! # Workspace isolation of agent entities

No row of a workspace refers to what only another one registered, and no call for a workspace
changes the rows of another: exactly where every call that is accepted meets what the six
functions leave unchecked.
-/

namespace BurnLens.Agents

open Library

/-! ## The entries of the tables -/

inductive Kind where
  | agent
  | workflow
  | workflowRun
  | run
  | task
  | action
deriving DecidableEq

abbrev Key := Kind × Str

abbrev Row := Entry Key Str

def Agent.entry (row : Agent) : Row := ⟨(.agent, row.agentId), row.workspaceId, []⟩

def AgentWorkflow.entry (row : AgentWorkflow) : Row :=
  ⟨(.workflow, row.workflowId), row.workspaceId, []⟩

def WorkflowRun.entry (row : WorkflowRun) : Row :=
  ⟨(.workflowRun, row.workflowRunId), row.workspaceId, [(.workflow, row.workflowId)]⟩

def AgentRun.entry (row : AgentRun) : Row :=
  ⟨(.run, row.runId), row.workspaceId,
    (.agent, row.agentId) :: ((row.workflowId.map (Prod.mk Kind.workflow)).toList ++
      (row.workflowRunId.map (Prod.mk Kind.workflowRun)).toList ++
      (row.parentRunId.map (Prod.mk Kind.run)).toList)⟩

def AgentTask.entry (row : AgentTask) : Row :=
  ⟨(.task, row.taskId), row.workspaceId, [(.run, row.runId)]⟩

def AgentAction.entry (row : AgentAction) : Row :=
  ⟨(.action, row.actionId), row.workspaceId, [(.task, row.taskId), (.run, row.runId)]⟩

def Registry.table (r : Registry) : Kind → List Row
  | .agent => r.agents.map Agent.entry
  | .workflow => r.workflows.map AgentWorkflow.entry
  | .workflowRun => r.workflowRuns.map WorkflowRun.entry
  | .run => r.runs.map AgentRun.entry
  | .task => r.tasks.map AgentTask.entry
  | .action => r.actions.map AgentAction.entry

def Registry.rows (r : Registry) : Set Row := fun row => row ∈ r.table row.key.1

/-- Ids are unique over the workspaces, but for workflow runs. -/
def exclusive (key : Key) : Prop := key.1 ≠ .workflowRun

def Call.entry : Call → Row
  | .agent row => row.entry
  | .workflow row => row.entry
  | .workflowRun row => row.entry
  | .run row => row.entry
  | .task row => row.entry
  | .action row => row.entry

def Call.workspaceId (c : Call) : Str := c.entry.owner

/-- An update is of the row of its own workspace; a replacement goes by the id alone. -/
def Call.removes (c : Call) (row : Row) : Prop :=
  row.key = c.entry.key ∧
    (c.entry.key.1 = .task ∨ c.entry.key.1 = .action ∨ row.owner = c.entry.owner)

def Registry.of (r : Registry) (workspaceId : Str) : Registry where
  agents := r.agents.filter fun row => row.workspaceId = workspaceId
  workflows := r.workflows.filter fun row => row.workspaceId = workspaceId
  workflowRuns := r.workflowRuns.filter fun row => row.workspaceId = workspaceId
  runs := r.runs.filter fun row => row.workspaceId = workspaceId
  tasks := r.tasks.filter fun row => row.workspaceId = workspaceId
  actions := r.actions.filter fun row => row.workspaceId = workspaceId

/-- What the functions do not check of a row that they store. -/
def Unshared (r : Registry) : Call → Prop
  | .agent row => ∀ run ∈ r.runs, run.agentId = row.agentId → run.workspaceId = row.workspaceId
  | .workflow row =>
    (∀ run ∈ r.runs, run.workflowId = some row.workflowId → run.workspaceId = row.workspaceId) ∧
      ∀ run ∈ r.workflowRuns, run.workflowId = row.workflowId → run.workspaceId = row.workspaceId
  | .workflowRun _ => True
  | .run row =>
    (∀ task ∈ r.tasks, task.runId = row.runId → task.workspaceId = row.workspaceId) ∧
      (∀ action ∈ r.actions, action.runId = row.runId → action.workspaceId = row.workspaceId) ∧
      -- an empty text passes for none
      (row.parentRunId = some [] → runElsewhere r [] row.workspaceId = false) ∧
      (row.workflowId = some [] → workflowElsewhere r [] row.workspaceId = false) ∧
      (row.workflowRunId = some [] → (∃ run ∈ r.workflowRuns, run.workflowRunId = []) →
        ∃ run ∈ r.workflowRuns, run.workflowRunId = [] ∧ run.workspaceId = row.workspaceId)
  | .task row =>
    (∀ task ∈ r.tasks, task.taskId = row.taskId → task.workspaceId = row.workspaceId) ∧
      (∀ run ∈ r.runs, run.runId = row.runId → run.workspaceId = row.workspaceId) ∧
      ∀ action ∈ r.actions, action.taskId = row.taskId → action.workspaceId = row.workspaceId
  | .action row =>
    (∀ action ∈ r.actions, action.actionId = row.actionId →
      action.workspaceId = row.workspaceId) ∧
      (∀ task ∈ r.tasks, task.taskId = row.taskId → task.workspaceId = row.workspaceId) ∧
      ∀ run ∈ r.runs, run.runId = row.runId → run.workspaceId = row.workspaceId

/-! ## Lookups -/

section

variable {r r' : Registry} {c : Call}

theorem mem_rows {row : Row} {kind : Kind} (its : row.key.1 = kind) :
    row ∈ r.rows ↔ row ∈ r.table kind := by
  subst its
  rfl

theorem elsewhere_false {α : Type} {id workspace : α → Str} {rows : List α}
    (unique : ∀ a ∈ rows, ∀ b ∈ rows, id a = id b → workspace a = workspace b)
    {key workspaceId : Str} :
    elsewhere id workspace rows key workspaceId = false ↔
      ∀ row ∈ rows, id row = key → workspace row = workspaceId := by
  rw [elsewhere]
  cases found : rows.find? fun row => id row = key with
  | none =>
    have absent := List.find?_eq_none.mp found
    simp only [true_iff]
    exact fun row member its => absurd its (by simpa using absent row member)
  | some existing =>
    have its : id existing = key := by simpa using List.find?_some found
    have member := List.mem_of_find?_eq_some found
    simp only [ne_eq, decide_not, Bool.not_eq_false', decide_eq_true_eq]
    constructor
    · intro same row stored same'
      rw [unique row stored existing member (same'.trans its.symm), same]
    · exact fun all => all existing member its

theorem forall_rows {P : Row → Prop} :
    (∀ row ∈ r.rows, P row) ↔
      (∀ row ∈ r.agents, P row.entry) ∧ (∀ row ∈ r.workflows, P row.entry) ∧
        (∀ row ∈ r.workflowRuns, P row.entry) ∧ (∀ row ∈ r.runs, P row.entry) ∧
          (∀ row ∈ r.tasks, P row.entry) ∧ ∀ row ∈ r.actions, P row.entry := by
  constructor
  · intro all
    exact ⟨fun row member => all _ (List.mem_map_of_mem member),
      fun row member => all _ (List.mem_map_of_mem member),
      fun row member => all _ (List.mem_map_of_mem member),
      fun row member => all _ (List.mem_map_of_mem member),
      fun row member => all _ (List.mem_map_of_mem member),
      fun row member => all _ (List.mem_map_of_mem member)⟩
  · rintro ⟨agents, workflows, workflowRuns, runs, tasks, actions⟩ row member
    obtain ⟨⟨kind, id⟩, owner, references⟩ := row
    cases kind with
    | agent => obtain ⟨row, stored, same⟩ := List.mem_map.mp member; exact same ▸ agents row stored
    | workflow =>
      obtain ⟨row, stored, same⟩ := List.mem_map.mp member; exact same ▸ workflows row stored
    | workflowRun =>
      obtain ⟨row, stored, same⟩ := List.mem_map.mp member; exact same ▸ workflowRuns row stored
    | run => obtain ⟨row, stored, same⟩ := List.mem_map.mp member; exact same ▸ runs row stored
    | task => obtain ⟨row, stored, same⟩ := List.mem_map.mp member; exact same ▸ tasks row stored
    | action => obtain ⟨row, stored, same⟩ := List.mem_map.mp member; exact same ▸ actions row stored

/-- The rows under a key, if any, are the workspace's own. -/
def Own (r : Registry) (workspaceId : Str) (key : Key) : Prop :=
  ∀ row ∈ r.rows, row.key = key → row.owner = workspaceId

theorem own_iff {workspaceId : Str} {key : Key} (single : Single exclusive r.rows)
    (exclusively : exclusive key) :
    (Registered r.rows key → Owns r.rows workspaceId key) ↔ Own r workspaceId key := by
  constructor
  · intro owns row stored its
    obtain ⟨own, stored', same, owner⟩ := owns ⟨row, stored, its⟩
    rw [← owner]
    exact single row stored own stored' (its ▸ exclusively) (its.trans same.symm)
  · rintro all ⟨row, stored, its⟩
    exact ⟨row, stored, its, all row stored its⟩

theorem own_agent {workspaceId id : Str} : Own r workspaceId (.agent, id) ↔
    ∀ row ∈ r.agents, row.agentId = id → row.workspaceId = workspaceId := by
  simp [Own, forall_rows, Agent.entry, AgentWorkflow.entry, WorkflowRun.entry, AgentRun.entry,
    AgentTask.entry, AgentAction.entry]

theorem own_workflow {workspaceId id : Str} : Own r workspaceId (.workflow, id) ↔
    ∀ row ∈ r.workflows, row.workflowId = id → row.workspaceId = workspaceId := by
  simp [Own, forall_rows, Agent.entry, AgentWorkflow.entry, WorkflowRun.entry, AgentRun.entry,
    AgentTask.entry, AgentAction.entry]

theorem own_run {workspaceId id : Str} : Own r workspaceId (.run, id) ↔
    ∀ row ∈ r.runs, row.runId = id → row.workspaceId = workspaceId := by
  simp [Own, forall_rows, Agent.entry, AgentWorkflow.entry, WorkflowRun.entry, AgentRun.entry,
    AgentTask.entry, AgentAction.entry]

theorem own_task {workspaceId id : Str} : Own r workspaceId (.task, id) ↔
    ∀ row ∈ r.tasks, row.taskId = id → row.workspaceId = workspaceId := by
  simp [Own, forall_rows, Agent.entry, AgentWorkflow.entry, WorkflowRun.entry, AgentRun.entry,
    AgentTask.entry, AgentAction.entry]

theorem own_action {workspaceId id : Str} : Own r workspaceId (.action, id) ↔
    ∀ row ∈ r.actions, row.actionId = id → row.workspaceId = workspaceId := by
  simp [Own, forall_rows, Agent.entry, AgentWorkflow.entry, WorkflowRun.entry, AgentRun.entry,
    AgentTask.entry, AgentAction.entry]

theorem agentElsewhere_false (single : Single exclusive r.rows) {workspaceId id : Str} :
    agentElsewhere r id workspaceId = false ↔ Own r workspaceId (.agent, id) := by
  rw [own_agent]
  apply elsewhere_false
  intro a stored b stored' same
  exact single a.entry (List.mem_map_of_mem stored) b.entry (List.mem_map_of_mem stored')
    (by simp [exclusive, Agent.entry]) (congrArg (Prod.mk Kind.agent) same)

theorem workflowElsewhere_false (single : Single exclusive r.rows) {workspaceId id : Str} :
    workflowElsewhere r id workspaceId = false ↔ Own r workspaceId (.workflow, id) := by
  rw [own_workflow]
  apply elsewhere_false
  intro a stored b stored' same
  exact single a.entry (List.mem_map_of_mem stored) b.entry (List.mem_map_of_mem stored')
    (by simp [exclusive, AgentWorkflow.entry]) (congrArg (Prod.mk Kind.workflow) same)

theorem runElsewhere_false (single : Single exclusive r.rows) {workspaceId id : Str} :
    runElsewhere r id workspaceId = false ↔ Own r workspaceId (.run, id) := by
  rw [own_run]
  apply elsewhere_false
  intro a stored b stored' same
  exact single a.entry (List.mem_map_of_mem stored) b.entry (List.mem_map_of_mem stored')
    (by simp [exclusive, AgentRun.entry]) (congrArg (Prod.mk Kind.run) same)

/-- Only rows of the workspace refer to the key. -/
def Unmentioned (r : Registry) (workspaceId : Str) (key : Key) : Prop :=
  ∀ row ∈ r.rows, key ∈ row.references → row.owner = workspaceId

theorem unmentioned_agent {workspaceId id : Str} : Unmentioned r workspaceId (.agent, id) ↔
    ∀ run ∈ r.runs, run.agentId = id → run.workspaceId = workspaceId := by
  simp [Unmentioned, forall_rows, Agent.entry, AgentWorkflow.entry, WorkflowRun.entry,
    AgentRun.entry, AgentTask.entry, AgentAction.entry, eq_comm]

theorem unmentioned_workflow {workspaceId id : Str} : Unmentioned r workspaceId (.workflow, id) ↔
    (∀ run ∈ r.workflowRuns, run.workflowId = id → run.workspaceId = workspaceId) ∧
      ∀ run ∈ r.runs, run.workflowId = some id → run.workspaceId = workspaceId := by
  simp [Unmentioned, forall_rows, Agent.entry, AgentWorkflow.entry, WorkflowRun.entry,
    AgentRun.entry, AgentTask.entry, AgentAction.entry, eq_comm]

theorem unmentioned_workflowRun {workspaceId id : Str} :
    Unmentioned r workspaceId (.workflowRun, id) ↔
      ∀ run ∈ r.runs, run.workflowRunId = some id → run.workspaceId = workspaceId := by
  simp [Unmentioned, forall_rows, Agent.entry, AgentWorkflow.entry, WorkflowRun.entry,
    AgentRun.entry, AgentTask.entry, AgentAction.entry, eq_comm]

theorem unmentioned_run {workspaceId id : Str} : Unmentioned r workspaceId (.run, id) ↔
    (∀ run ∈ r.runs, run.parentRunId = some id → run.workspaceId = workspaceId) ∧
      (∀ task ∈ r.tasks, task.runId = id → task.workspaceId = workspaceId) ∧
        ∀ action ∈ r.actions, action.runId = id → action.workspaceId = workspaceId := by
  simp [Unmentioned, forall_rows, Agent.entry, AgentWorkflow.entry, WorkflowRun.entry,
    AgentRun.entry, AgentTask.entry, AgentAction.entry, eq_comm]

theorem unmentioned_task {workspaceId id : Str} : Unmentioned r workspaceId (.task, id) ↔
    ∀ action ∈ r.actions, action.taskId = id → action.workspaceId = workspaceId := by
  simp [Unmentioned, forall_rows, Agent.entry, AgentWorkflow.entry, WorkflowRun.entry,
    AgentRun.entry, AgentTask.entry, AgentAction.entry, eq_comm]

theorem unmentioned_action {workspaceId id : Str} : Unmentioned r workspaceId (.action, id) := by
  simp [Unmentioned, forall_rows, Agent.entry, AgentWorkflow.entry, WorkflowRun.entry,
    AgentRun.entry, AgentTask.entry, AgentAction.entry]

/-- Where the rows under the new key are the caller's own, a reference to it from another
    workspace is to what that has not registered. -/
theorem apart_iff (own : Own r c.workspaceId c.entry.key) :
    Apart c.entry c.removes r.rows ↔
      (∀ key ∈ c.entry.references, key ≠ c.entry.key → Registered r.rows key →
        Owns r.rows c.workspaceId key) ∧ Unmentioned r c.workspaceId c.entry.key := by
  constructor
  · intro apart
    refine ⟨apart.refers, fun row stored refers => ?_⟩
    by_contra foreign
    obtain ⟨mine, stored', same, owner⟩ := apart.referred row stored foreign refers
    exact foreign (owner.symm.trans (own mine stored' same))
  · rintro ⟨refers, unmentioned⟩
    exact ⟨fun row stored gone => own row stored gone.1, refers,
      fun row stored foreign mentions => absurd (unmentioned row stored mentions) foreign⟩

theorem apart_replace_iff (replaces : c.entry.key.1 = .task ∨ c.entry.key.1 = .action) :
    Apart c.entry c.removes r.rows ↔
      Own r c.workspaceId c.entry.key ∧
        (∀ key ∈ c.entry.references, key ≠ c.entry.key → Registered r.rows key →
          Owns r.rows c.workspaceId key) ∧ Unmentioned r c.workspaceId c.entry.key := by
  have own : Apart c.entry c.removes r.rows → Own r c.workspaceId c.entry.key :=
    fun apart row stored same => apart.removed row stored ⟨same, by tauto⟩
  exact ⟨fun apart => ⟨own apart, (apart_iff (own apart)).mp apart⟩,
    fun ⟨own, rest⟩ => (apart_iff own).mpr rest⟩

/-! ## What an accepted call does -/

structure Accepted (r r' : Registry) (c : Call) : Prop where
  inserted : Inserted c.entry c.removes r.rows r'.rows
  sole : exclusive c.entry.key → ∀ row ∈ r.rows, row.key = c.entry.key → ¬ c.removes row →
    row.owner = c.workspaceId
  unshared : Unshared r c ↔ Apart c.entry c.removes r.rows
  kept : Unshared r c → ∀ workspaceId, workspaceId ≠ c.workspaceId →
    r'.of workspaceId = r.of workspaceId

theorem inserted_of_table (kind : Kind) (its : c.entry.key.1 = kind)
    (others : ∀ other, other ≠ kind → r'.table other = r.table other)
    (mem : ∀ row, row ∈ r'.table kind ↔ row = c.entry ∨ row ∈ r.table kind ∧ ¬ c.removes row) :
    Inserted c.entry c.removes r.rows r'.rows where
  mem row := by
    by_cases same : row.key.1 = kind
    · rw [mem_rows same, mem_rows same, mem]
    · have apart : row.key ≠ c.entry.key := fun equal => same ((congrArg Prod.fst equal).trans its)
      have new : row ≠ c.entry := fun equal => apart (congrArg _ equal)
      have stays : ¬ c.removes row := fun gone => apart gone.1
      rw [mem_rows rfl, mem_rows rfl, others _ same]
      simp [new, stays]
  same row gone := gone.1

/-- An upsert, where the rows with the new id are the caller's own. -/
theorem mem_upsert_table {α : Type} (entry : α → Row) {rows : List α} {same : α → Bool}
    {update : α → α} {row : α} (new : entry row = c.entry)
    (same_iff : ∀ other ∈ rows, same other = true ↔ c.removes (entry other))
    (updated : ∀ other ∈ rows, same other = true → entry (update other) = c.entry) (v : Row) :
    v ∈ (upsert same update row rows).map entry ↔
      v = c.entry ∨ v ∈ rows.map entry ∧ ¬ c.removes v := by
  rw [mem_map_upsert new updated, List.mem_map]
  constructor
  · rintro (equal | ⟨other, stored, apart, rfl⟩)
    · exact Or.inl equal
    · refine Or.inr ⟨⟨other, stored, rfl⟩, fun gone => ?_⟩
      rw [(same_iff other stored).mpr gone] at apart
      cases apart
  · rintro (equal | ⟨⟨other, stored, rfl⟩, stays⟩)
    · exact Or.inl equal
    · refine Or.inr ⟨other, stored, ?_, rfl⟩
      rw [← Bool.not_eq_true, same_iff other stored]
      exact stays

theorem mem_replace_table {α : Type} (entry : α → Row) {rows : List α} {clash : α → α → Bool}
    {row : α} (new : entry row = c.entry)
    (clash_iff : ∀ other ∈ rows, clash other row = true ↔ c.removes (entry other)) (v : Row) :
    v ∈ (insertOrReplace clash rows row).map entry ↔
      v = c.entry ∨ v ∈ rows.map entry ∧ ¬ c.removes v := by
  simp only [List.mem_map, mem_insertOrReplace]
  constructor
  · rintro ⟨other, ⟨stored, apart⟩ | rfl, rfl⟩
    · refine Or.inr ⟨⟨other, stored, rfl⟩, fun gone => ?_⟩
      rw [(clash_iff other stored).mpr gone] at apart
      cases apart
    · exact Or.inl new
  · rintro (rfl | ⟨⟨other, stored, rfl⟩, stays⟩)
    · exact ⟨row, Or.inr rfl, new⟩
    · refine ⟨other, Or.inl ⟨stored, ?_⟩, rfl⟩
      rw [← Bool.not_eq_true, clash_iff other stored]
      exact stays

/-- An upsert of a row by its id, which updates no row of another workspace. -/
theorem filter_upsert_own {α : Type} (id workspace : α → Str) {rows : List α} {update : α → α}
    {row : α} (its : ∀ old ∈ rows, id old = id row → workspace old = workspace row)
    (updated : ∀ old, workspace (update old) = workspace row) {workspaceId : Str}
    (other : workspaceId ≠ workspace row) :
    (upsert (fun old => id old = id row)
        (fun old => if workspace old = workspace row then update old else old) row rows).filter
          (fun old => workspace old = workspaceId) =
      rows.filter fun old => workspace old = workspaceId := by
  apply filter_upsert
  · intro old stored same
    have mine := its old stored (of_decide_eq_true same)
    refine Or.inr ⟨decide_eq_false (mine ▸ Ne.symm other), ?_⟩
    rw [if_pos mine, updated old]
    exact decide_eq_false (Ne.symm other)
  · exact decide_eq_false (Ne.symm other)

theorem accepted_agent (single : Single exclusive r.rows) {agent : Agent}
    (ok : insertAgent r agent = .ok r') : Accepted r r' (.agent agent) := by
  rw [insertAgent] at ok
  split at ok
  · cases ok
  next free =>
  rw [Bool.not_eq_true, agentElsewhere_false single] at free
  obtain rfl := Except.ok.inj ok
  have its := own_agent.mp free
  constructor
  · apply inserted_of_table .agent rfl
    · intro other different
      cases other with
      | agent => exact absurd rfl different
      | workflow | workflowRun | run | task | action => rfl
    · apply mem_upsert_table Agent.entry rfl
      · intro other stored
        simp only [Call.removes, Call.entry, Agent.entry, decide_eq_true_eq, Prod.mk.injEq, true_and,
          reduceCtorEq, false_or]
        exact ⟨fun same => ⟨same, its other stored same⟩, And.left⟩
      · intro other stored same
        rw [if_pos (its other stored (of_decide_eq_true same))]
        rfl
  · exact fun _ row stored same _ => free row stored same
  · rw [apart_iff free]
    exact unmentioned_agent.symm.trans (iff_and_self.mpr fun _ key refers => by cases refers)
  · intro _ workspaceId other
    simp only [Registry.of]
    congr 1
    exact filter_upsert_own Agent.agentId Agent.workspaceId its (fun _ => by rfl) other

theorem accepted_workflow (single : Single exclusive r.rows) {workflow : AgentWorkflow}
    (ok : insertAgentWorkflow r workflow = .ok r') : Accepted r r' (.workflow workflow) := by
  rw [insertAgentWorkflow] at ok
  split at ok
  · cases ok
  next free =>
  rw [Bool.not_eq_true, workflowElsewhere_false single] at free
  obtain rfl := Except.ok.inj ok
  have its := own_workflow.mp free
  constructor
  · apply inserted_of_table .workflow rfl
    · intro other different
      cases other with
      | workflow => exact absurd rfl different
      | agent | workflowRun | run | task | action => rfl
    · apply mem_upsert_table AgentWorkflow.entry rfl
      · intro other stored
        simp only [Call.removes, Call.entry, AgentWorkflow.entry, decide_eq_true_eq, Prod.mk.injEq,
          true_and, reduceCtorEq, false_or]
        exact ⟨fun same => ⟨same, its other stored same⟩, And.left⟩
      · intro other stored same
        rw [if_pos (its other stored (of_decide_eq_true same))]
        rfl
  · exact fun _ row stored same _ => free row stored same
  · rw [apart_iff free]
    exact and_comm.trans
      (unmentioned_workflow.symm.trans (iff_and_self.mpr fun _ key refers => by cases refers))
  · intro _ workspaceId other
    simp only [Registry.of]
    congr 1
    exact filter_upsert_own AgentWorkflow.workflowId AgentWorkflow.workspaceId its (fun _ => rfl)
      other

theorem accepted_workflowRun (single : Single exclusive r.rows) {run : WorkflowRun}
    (ok : insertWorkflowRun r run = .ok r') : Accepted r r' (.workflowRun run) := by
  rw [insertWorkflowRun] at ok
  split at ok
  · cases ok
  next free =>
  split at ok
  · cases ok
  next unreferenced =>
  rw [Bool.not_eq_true, workflowElsewhere_false single] at free
  obtain rfl := Except.ok.inj ok
  constructor
  · apply inserted_of_table .workflowRun rfl
    · intro other different
      cases other with
      | workflowRun => exact absurd rfl different
      | agent | workflow | run | task | action => rfl
    · apply mem_upsert_table WorkflowRun.entry rfl
      · intro other stored
        simp [Call.removes, Call.entry, WorkflowRun.entry, and_comm]
      · exact fun _ _ _ => rfl
  · exact fun exclusively => absurd rfl exclusively
  · apply iff_of_true trivial
    constructor
    · rintro row _ ⟨_, task | action | same⟩
      · cases task
      · cases action
      · exact same
    · intro key refers _
      obtain rfl := List.mem_singleton.mp refers
      exact (own_iff single (by simp [exclusive])).mpr free
    · -- where a run of another workspace names it, the call is refused
      have own : Unmentioned r run.workspaceId (.workflowRun, run.workflowRunId) := by
        rw [unmentioned_workflowRun]
        intro other stored names
        by_contra foreign
        exact unreferenced (Or.inl (List.any_eq_true.mpr
          ⟨other, stored, decide_eq_true ⟨names, foreign⟩⟩))
      exact fun row stored foreign mentions => absurd (own row stored mentions) foreign
  · intro _ workspaceId other
    simp only [Registry.of]
    congr 1
    apply filter_upsert
    · intro old stored same
      have mine := (of_decide_eq_true same).1
      exact Or.inr ⟨decide_eq_false (mine ▸ Ne.symm other), decide_eq_false (Ne.symm other)⟩
    · exact decide_eq_false (Ne.symm other)

theorem ifGiven_false {value : Option Str} {check : Str → Bool} :
    ifGiven value check = false ↔ ∀ text, value = some text → text ≠ [] → check text = false := by
  cases value with
  | none => simp [ifGiven]
  | some text => cases text <;> simp [ifGiven]

/-- What is checked where it is given, and unchecked where it is the empty text. -/
theorem given_iff {value : Option Str} {check : Str → Bool} {P : Str → Prop}
    (checked : ∀ text, check text = false ↔ P text) (passed : ifGiven value check = false) :
    (value = some [] → P []) ↔ ∀ text, value = some text → P text := by
  constructor
  · intro empty text given
    by_cases none : text = []
    · exact none ▸ empty (none ▸ given)
    · exact (checked text).mp (ifGiven_false.mp passed text given none)
  · exact fun all given => all [] given

theorem registered_workflowRun {id : Str} : Registered r.rows (.workflowRun, id) ↔
    ∃ run ∈ r.workflowRuns, run.workflowRunId = id := by
  constructor
  · rintro ⟨row, stored, its⟩
    rw [mem_rows (congrArg Prod.fst its)] at stored
    obtain ⟨run, member, rfl⟩ := List.mem_map.mp stored
    exact ⟨run, member, congrArg Prod.snd its⟩
  · rintro ⟨run, member, rfl⟩
    exact ⟨run.entry, List.mem_map_of_mem member, rfl⟩

theorem owns_workflowRun {id workspaceId : Str} : Owns r.rows workspaceId (.workflowRun, id) ↔
    ∃ run ∈ r.workflowRuns, run.workflowRunId = id ∧ run.workspaceId = workspaceId := by
  constructor
  · rintro ⟨row, stored, its, rfl⟩
    rw [mem_rows (congrArg Prod.fst its)] at stored
    obtain ⟨run, member, rfl⟩ := List.mem_map.mp stored
    exact ⟨run, member, congrArg Prod.snd its, rfl⟩
  · rintro ⟨run, member, rfl, rfl⟩
    exact ⟨run.entry, List.mem_map_of_mem member, rfl, rfl⟩

theorem workflowRun_checked {id workspaceId : Str} :
    (!(r.workflowRuns.any fun other => other.workflowRunId = id ∧ other.workspaceId = workspaceId) &&
        r.workflowRuns.any fun other => other.workflowRunId = id) = false ↔
      (Registered r.rows (.workflowRun, id) → Owns r.rows workspaceId (.workflowRun, id)) := by
  rw [registered_workflowRun, owns_workflowRun, ← Bool.not_eq_true, Bool.and_eq_true,
    Bool.not_eq_true', ← Bool.not_eq_true, List.any_eq_true, List.any_eq_true]
  simp only [decide_eq_true_eq, not_and', not_not]

theorem references_run {run : AgentRun} {P : Key → Prop} :
    (∀ key ∈ run.entry.references, P key) ↔
      P (.agent, run.agentId) ∧ (∀ id, run.workflowId = some id → P (.workflow, id)) ∧
        (∀ id, run.workflowRunId = some id → P (.workflowRun, id)) ∧
          ∀ id, run.parentRunId = some id → P (.run, id) := by
  constructor
  · intro all
    simp only [AgentRun.entry, List.forall_mem_cons, List.forall_mem_append] at all
    obtain ⟨agent, ⟨workflow, workflowRun⟩, parent⟩ := all
    exact ⟨agent, fun id its => workflow _ (by simp [its]), fun id its => workflowRun _ (by simp [its]),
      fun id its => parent _ (by simp [its])⟩
  · rintro ⟨agent, workflow, workflowRun, parent⟩ key member
    simp only [AgentRun.entry, List.mem_cons, List.mem_append, Option.mem_toList,
      Option.map_eq_some_iff] at member
    obtain rfl | (⟨id, its, rfl⟩ | ⟨id, its, rfl⟩) | ⟨id, its, rfl⟩ := member
    · exact agent
    · exact workflow id its
    · exact workflowRun id its
    · exact parent id its

theorem accepted_run (single : Single exclusive r.rows) {run : AgentRun}
    (ok : insertAgentRun r run = .ok r') : Accepted r r' (.run run) := by
  rw [insertAgentRun] at ok
  split at ok
  · cases ok
  next free =>
  split at ok
  · cases ok
  next parent =>
  split at ok
  · cases ok
  next childless =>
  split at ok
  · cases ok
  next workflow =>
  split at ok
  · cases ok
  next agent =>
  split at ok
  · cases ok
  next workflowRun =>
  rw [Bool.not_eq_true] at free parent workflow agent workflowRun
  rw [runElsewhere_false single] at free
  rw [agentElsewhere_false single] at agent
  obtain rfl := Except.ok.inj ok
  have its := own_run.mp free
  constructor
  · apply inserted_of_table .run rfl
    · intro other different
      cases other with
      | run => exact absurd rfl different
      | agent | workflow | workflowRun | task | action => rfl
    · apply mem_upsert_table AgentRun.entry rfl
      · intro other stored
        simp only [Call.removes, Call.entry, AgentRun.entry, decide_eq_true_eq, Prod.mk.injEq,
          true_and, reduceCtorEq, false_or]
        exact ⟨fun same => ⟨same, its other stored same⟩, And.left⟩
      · intro other stored same
        rw [if_pos (its other stored (of_decide_eq_true same))]
        rfl
  · exact fun _ row stored same _ => free row stored same
  · have parents := given_iff (fun text => runElsewhere_false single) parent
    have workflows := given_iff (fun text => workflowElsewhere_false single) workflow
    have workflowRuns := given_iff (fun text => workflowRun_checked) workflowRun
    simp only [registered_workflowRun, owns_workflowRun] at workflowRuns
    have unmentioned := @unmentioned_run r run.workspaceId run.runId
    have noParent : ∀ other ∈ r.runs, other.parentRunId = some run.runId →
        other.workspaceId = run.workspaceId := by
      intro other stored names
      by_contra foreign
      exact childless (List.any_eq_true.mpr ⟨other, stored, decide_eq_true ⟨names, foreign⟩⟩)
    have refers : (∀ key ∈ run.entry.references, key ≠ (.run, run.runId) →
        Registered r.rows key → Owns r.rows run.workspaceId key) ↔
          (∀ id, run.workflowId = some id → Own r run.workspaceId (.workflow, id)) ∧
            (∀ id, run.workflowRunId = some id → Registered r.rows (.workflowRun, id) →
              Owns r.rows run.workspaceId (.workflowRun, id)) ∧
              ∀ id, run.parentRunId = some id → Own r run.workspaceId (.run, id) := by
      rw [references_run]
      constructor
      · rintro ⟨-, workflow, workflowRun, parent⟩
        refine ⟨fun id its => (own_iff single (by simp [exclusive])).mp (workflow id its (by simp)),
          fun id its => workflowRun id its (by simp), fun id its => ?_⟩
        by_cases self : id = run.runId
        · exact self ▸ free
        · exact (own_iff single (by simp [exclusive])).mp (parent id its (by simpa using self))
      · rintro ⟨workflow, workflowRun, parent⟩
        exact ⟨fun _ => (own_iff single (by simp [exclusive])).mpr agent,
          fun id its _ => (own_iff single (by simp [exclusive])).mpr (workflow id its),
          fun id its _ => workflowRun id its,
          fun id its _ => (own_iff single (by simp [exclusive])).mpr (parent id its)⟩
    rw [apart_iff free]
    show _ ↔ (∀ key ∈ run.entry.references, key ≠ (.run, run.runId) → Registered r.rows key →
      Owns r.rows run.workspaceId key) ∧ Unmentioned r run.workspaceId (.run, run.runId)
    rw [refers, unmentioned]
    simp only [registered_workflowRun, owns_workflowRun]
    rw [← parents, ← workflows, ← workflowRuns]
    simp only [Unshared, runElsewhere_false single, workflowElsewhere_false single]
    constructor
    · rintro ⟨tasks, actions, noRun, noWorkflow, noWorkflowRun⟩
      exact ⟨⟨noWorkflow, noWorkflowRun, noRun⟩, noParent, tasks, actions⟩
    · rintro ⟨⟨noWorkflow, noWorkflowRun, noRun⟩, _, tasks, actions⟩
      exact ⟨tasks, actions, noRun, noWorkflow, noWorkflowRun⟩
  · intro _ workspaceId other
    simp only [Registry.of]
    congr 1
    exact filter_upsert_own AgentRun.runId AgentRun.workspaceId its (fun _ => by rfl) other

theorem accepted_task {task : AgentTask} (single : Single exclusive r.rows)
    (ok : insertAgentTask r task = .ok r') : Accepted r r' (.task task) := by
  obtain rfl := Except.ok.inj ok
  constructor
  · apply inserted_of_table .task rfl
    · intro other different
      cases other with
      | task => exact absurd rfl different
      | agent | workflow | workflowRun | run | action => rfl
    · apply mem_replace_table (c := .task task) AgentTask.entry rfl
      intro other stored
      simp [Call.removes, Call.entry, AgentTask.entry]
  · exact fun _ row stored same stays => absurd ⟨same, Or.inl rfl⟩ stays
  · rw [apart_replace_iff (Or.inl rfl)]
    refine and_congr own_task.symm (and_congr ?_ unmentioned_task.symm)
    rw [← own_run, ← own_iff single (by simp [exclusive])]
    simp [Call.entry, AgentTask.entry, Call.workspaceId]
  · intro unshared workspaceId other
    simp only [Registry.of]
    congr 1
    apply filter_insertOrReplace
    · intro old stored same
      rw [unshared.1 old stored (of_decide_eq_true same)]
      exact decide_eq_false (Ne.symm other)
    · exact decide_eq_false (Ne.symm other)

theorem accepted_action {action : AgentAction} (single : Single exclusive r.rows)
    (ok : insertAgentAction r action = .ok r') : Accepted r r' (.action action) := by
  obtain rfl := Except.ok.inj ok
  constructor
  · apply inserted_of_table .action rfl
    · intro other different
      cases other with
      | action => exact absurd rfl different
      | agent | workflow | workflowRun | run | task => rfl
    · apply mem_replace_table (c := .action action) AgentAction.entry rfl
      intro other stored
      simp [Call.removes, Call.entry, AgentAction.entry]
  · exact fun _ row stored same stays => absurd ⟨same, Or.inr (Or.inl rfl)⟩ stays
  · rw [apart_replace_iff (Or.inr rfl)]
    refine and_congr own_action.symm ?_
    rw [← own_task, ← own_run, ← own_iff single (by simp [exclusive]),
      ← own_iff single (by simp [exclusive])]
    simp [Call.entry, AgentAction.entry, Call.workspaceId, unmentioned_action]
  · intro unshared workspaceId other
    simp only [Registry.of]
    congr 1
    apply filter_insertOrReplace
    · intro old stored same
      rw [unshared.1 old stored (of_decide_eq_true same)]
      exact decide_eq_false (Ne.symm other)
    · exact decide_eq_false (Ne.symm other)

theorem accepted (single : Single exclusive r.rows) (ok : insert r c = .ok r') : Accepted r r' c := by
  cases c with
  | agent row => exact accepted_agent single ok
  | workflow row => exact accepted_workflow single ok
  | workflowRun row => exact accepted_workflowRun single ok
  | run row => exact accepted_run single ok
  | task row => exact accepted_task single ok
  | action row => exact accepted_action single ok

/-! ## Runs -/

theorem table_of (workspaceId : Str) (kind : Kind) :
    (r.of workspaceId).table kind =
      (r.table kind).filter fun row => decide (row.owner = workspaceId) := by
  cases kind with
  | agent | workflow | workflowRun | run | task | action =>
    simp only [Registry.table, Registry.of, List.filter_map]
    rfl

theorem mem_of {row : Row} : row ∈ (r.of row.owner).rows ↔ row ∈ r.rows := by
  rw [mem_rows rfl, mem_rows rfl, table_of, List.mem_filter]
  simp

end

def registryMachine : Machine Registry Call where
  step r c := some (call r c)

/-- A call that is accepted meets what is not checked. -/
def Cleared (r : Registry) (c : Call) : Prop := ∀ r', insert r c = .ok r' → Unshared r c

/-- After the call no row refers to what only another workspace has registered, and of the rows
    of other workspaces none is changed, removed or new. -/
def Respects (r : Registry) (c : Call) : Prop :=
  Isolated (call r c).rows ∧
    ∀ workspaceId, workspaceId ≠ c.workspaceId → (call r c).of workspaceId = r.of workspaceId

structure Sound (r : Registry) : Prop where
  isolated : Isolated r.rows
  single : Single exclusive r.rows

section

variable {r r' : Registry} {c : Call}

theorem call_ok (ok : insert r c = .ok r') : call r c = r' := by rw [call, ok]

theorem call_error {message : Str} (error : insert r c = .error message) : call r c = r := by
  rw [call, error]

theorem cleared_iff (sound : Sound r) : Cleared r c ↔ Respects r c := by
  cases result : insert r c with
  | error message =>
    rw [Respects, call_error result]
    exact iff_of_true (fun r' ok => by rw [result] at ok; cases ok) ⟨sound.isolated, fun _ _ => rfl⟩
  | ok r' =>
    have accepted := accepted sound.single result
    have cleared : Cleared r c ↔ Unshared r c := by
      refine ⟨fun cleared => cleared r' result, fun unshared _ _ => unshared⟩
    rw [cleared, Respects, call_ok result]
    have iff := isolated_insert_iff sound.isolated accepted.inserted
    rw [← accepted.unshared] at iff
    constructor
    · exact fun unshared => ⟨(iff.mpr unshared).1, accepted.kept unshared⟩
    · rintro ⟨isolated, kept⟩
      refine iff.mp ⟨isolated, fun row stored foreign => ?_⟩
      rw [← mem_of, kept row.owner foreign, mem_of]
      exact stored

theorem sound_preserved : registryMachine.Preserves Cleared Sound := by
  intro r c s' sound cleared stepped
  obtain rfl := Option.some.inj stepped
  refine ⟨((cleared_iff sound).mp cleared).1, ?_⟩
  cases result : insert r c with
  | error message =>
    rw [call_error result]
    exact sound.single
  | ok r' =>
    rw [call_ok result]
    have accepted := accepted sound.single result
    exact sound.single.insert accepted.inserted accepted.sole

theorem sound_empty : Sound {} := by
  have empty : ∀ row, row ∉ Registry.rows {} := by
    intro row member
    obtain ⟨⟨kind, id⟩, owner, references⟩ := row
    cases kind with
    | agent | workflow | workflowRun | run | task | action => cases member
  exact ⟨fun row member => absurd member (empty row), fun row member => absurd member (empty row)⟩

end

/-- Workspace isolation of agent entities: from empty tables, every call leaves the tables
    isolated and the rows of other workspaces as they are, if and only if every call that is
    accepted meets what the six functions do not check. -/
theorem isolated_iff_unshared (calls : List Call) :
    registryMachine.Guarded Cleared {} calls ↔ registryMachine.Guarded Respects {} calls := by
  constructor
  · exact registryMachine.guarded_imp Sound (fun _ _ sound => (cleared_iff sound).mp)
      sound_preserved sound_empty
  · apply registryMachine.guarded_imp Sound (fun _ _ sound => (cleared_iff sound).mpr) _ sound_empty
    exact fun s l s' sound respects => sound_preserved s l s' sound ((cleared_iff sound).mpr respects)

/-- A task of one workspace is replaced by another's of the same id. -/
theorem task_replaced : ¬ ∀ calls : List Call, registryMachine.Guarded Respects {} calls := by
  intro claim
  obtain ⟨-, respects⟩ := claim
    [.task { taskId := "t", runId := "r", workspaceId := "a" },
      .task { taskId := "t", runId := "s", workspaceId := "b" }]
  have kept := (respects _ rfl).1.2 "a" (by decide)
  exact absurd (congrArg (fun r => r.tasks.length) kept) (by decide)

end BurnLens.Agents
