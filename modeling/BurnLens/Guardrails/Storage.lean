import BurnLens.Guardrails.Detector
import Mathlib.Data.List.MinMax
import Mathlib.Logic.Function.Basic

/-! # Guardrail storage

The tables behind the guardrails.  The key of the task table is the task id alone; the rows
carry their workspace, and are read and updated through both.  Random ids and clock readings
are left out.
-/

namespace BurnLens.Guardrails

open Library hiding lower

structure TaskRow where
  workspaceId : Str
  agentId : Str
  state : TaskLifecycleState := .active
  metrics : TaskMetrics := {}
  pausedReason : Option Str := none
  resumedBy : Option Str := none
  stoppedReason : Option Str := none

structure Ingestion where
  eventId : Str
  workspaceId : Str
  taskId : Str

structure Store where
  policies : List GuardrailPolicy
  -- by `task_id`, the primary key
  tasks : Str → Option TaskRow
  ingested : List Ingestion
  decisions : List GuardrailDecision

namespace Store

/-- `INSERT OR REPLACE`, by policy id. -/
def savePolicy (s : Store) (policy : GuardrailPolicy) : Store :=
  { s with
    policies := s.policies.filter (fun other => other.policyId ≠ policy.policyId) ++ [policy] }

def activePolicies (s : Store) (workspaceId : Str) : List GuardrailPolicy :=
  s.policies.filter fun policy => policy.workspaceId = workspaceId ∧ policy.isActive

def getPolicy (s : Store) (workspaceId : Str) : Option GuardrailPolicy :=
  (s.activePolicies workspaceId).maxOn? GuardrailPolicy.version

def isEventDuplicate (s : Store) (eventId : Str) : Bool :=
  s.ingested.any fun ingestion => ingestion.eventId = eventId

def recordEventIngestion (s : Store) (ingestion : Ingestion) : Store :=
  if s.isEventDuplicate ingestion.eventId then s
  else { s with ingested := s.ingested ++ [ingestion] }

def taskRow (s : Store) (taskId workspaceId : Str) : Option TaskRow :=
  (s.tasks taskId).filter fun row => row.workspaceId = workspaceId

/-- `INSERT OR IGNORE`: a row of any workspace under this task id stays. -/
def insertTask (s : Store) (taskId : Str) (row : TaskRow) : Store :=
  match s.tasks taskId with
  | some _ => s
  | none => { s with tasks := Function.update s.tasks taskId (some row) }

/-- The row, or the fresh one that was offered to the table. -/
def getOrCreateTaskState (s : Store) (taskId workspaceId agentId : Str) : TaskRow × Store :=
  match s.taskRow taskId workspaceId with
  | some row => (row, s)
  | none => ({ workspaceId, agentId }, s.insertTask taskId { workspaceId, agentId })

/-- `UPDATE task_guardrail_state ... WHERE task_id = ? AND workspace_id = ?`. -/
def updateTask (s : Store) (taskId workspaceId : Str) (f : TaskRow → TaskRow) : Store :=
  match s.taskRow taskId workspaceId with
  | some row => { s with tasks := Function.update s.tasks taskId (some (f row)) }
  | none => s

end Store

def TaskMetrics.count (metrics : TaskMetrics) (event : RuntimeTelemetryEvent)
    (resetToolErrors : Bool) : TaskMetrics :=
  { metrics.after event with
    consecutiveToolErrors :=
      if resetToolErrors then 0 else (metrics.after event).consecutiveToolErrors }

def TaskMetrics.resume (metrics : TaskMetrics) : TaskMetrics :=
  { metrics with consecutiveToolErrors := 0, retryCount := 0 }

def TaskRow.count (row : TaskRow) (event : RuntimeTelemetryEvent) (resetToolErrors : Bool) :
    TaskRow :=
  { row with metrics := row.metrics.count event resetToolErrors }

def TaskRow.pause (row : TaskRow) (reason : Str) : TaskRow :=
  { row with state := .paused, pausedReason := some reason }

def TaskRow.stop (row : TaskRow) (reason : Str) : TaskRow :=
  { row with state := .stopped, stoppedReason := some reason }

/-- `operator or "human_operator"`. -/
def TaskRow.resume (row : TaskRow) (operator : Str) : TaskRow :=
  { row with
    state := .active
    resumedBy := some (if operator = [] then "human_operator" else operator)
    metrics := row.metrics.resume }

namespace Store

/-- `set_task_state` for a decision; the other decisions set none. -/
def enforce (s : Store) (event : RuntimeTelemetryEvent) (decision : GuardrailDecision) : Store :=
  match decision.decision with
  | .pause => s.updateTask event.taskId event.workspaceId (·.pause decision.reason)
  | .stop => s.updateTask event.taskId event.workspaceId (·.stop decision.reason)
  | _ => s

def resetsToolErrors (event : RuntimeTelemetryEvent) : Bool :=
  !event.isToolError &&
    (startsWith "tool_" event.actionType || contains "tool" event.actionType)

/-- The update, and the read after it that creates a missing row. -/
def updateTaskMetrics (s : Store) (event : RuntimeTelemetryEvent) : Store :=
  ((s.updateTask event.taskId event.workspaceId
      (·.count event (resetsToolErrors event))).getOrCreateTaskState
    event.taskId event.workspaceId []).2

def recordDecision (s : Store) (decision : GuardrailDecision) : Store :=
  { s with decisions := s.decisions ++ [decision] }

end Store

/-! ## What the tables say of a task -/

def TaskRow.view (row : TaskRow) : TaskLifecycleState × TaskMetrics := (row.state, row.metrics)

namespace Store

/-- State and metrics of a task of a workspace, as `get_or_create_task_state` reports them. -/
def view (s : Store) (taskId workspaceId : Str) : TaskLifecycleState × TaskMetrics :=
  ((s.taskRow taskId workspaceId).map TaskRow.view).getD (.active, {})

def state (s : Store) (taskId workspaceId : Str) : TaskLifecycleState :=
  (s.view taskId workspaceId).1

def metrics (s : Store) (taskId workspaceId : Str) : TaskMetrics :=
  (s.view taskId workspaceId).2

def owned (s : Store) (taskId workspaceId : Str) : Bool := (s.taskRow taskId workspaceId).isSome

variable {s : Store} {taskId workspaceId : Str}

theorem taskRow_eq_of_tasks {s s' : Store} (same : s.tasks = s'.tasks) : s.taskRow = s'.taskRow := by
  funext taskId workspaceId
  simp only [taskRow, same]

theorem view_eq_of_tasks {s s' : Store} (same : s.tasks = s'.tasks) : s.view = s'.view := by
  funext taskId workspaceId
  simp only [view, taskRow_eq_of_tasks same]

theorem owned_eq_of_tasks {s s' : Store} (same : s.tasks = s'.tasks) : s.owned = s'.owned := by
  funext taskId workspaceId
  simp only [owned, taskRow_eq_of_tasks same]

@[simp] theorem tasks_savePolicy (policy : GuardrailPolicy) :
    (s.savePolicy policy).tasks = s.tasks := rfl

@[simp] theorem tasks_recordDecision (decision : GuardrailDecision) :
    (s.recordDecision decision).tasks = s.tasks := rfl

@[simp] theorem tasks_recordEventIngestion (ingestion : Ingestion) :
    (s.recordEventIngestion ingestion).tasks = s.tasks := by
  rw [recordEventIngestion]
  split <;> rfl

theorem taskRow_some {row : TaskRow} :
    s.taskRow taskId workspaceId = some row ↔
      s.tasks taskId = some row ∧ row.workspaceId = workspaceId := by
  simp [taskRow, Option.filter_eq_some_iff]

theorem taskRow_insertTask (row : TaskRow) (taskId' workspaceId' : Str) :
    (s.insertTask taskId row).taskRow taskId' workspaceId' =
      if s.tasks taskId = none ∧ taskId' = taskId ∧ workspaceId' = row.workspaceId then some row
      else s.taskRow taskId' workspaceId' := by
  cases stored : s.tasks taskId with
  | some other => simp [insertTask, stored]
  | none =>
    by_cases sameTask : taskId' = taskId
    · subst sameTask
      by_cases sameWorkspace : workspaceId' = row.workspaceId
      · simp [insertTask, stored, taskRow, sameWorkspace]
      · simp [insertTask, stored, taskRow, sameWorkspace, Ne.symm sameWorkspace]
    · simp [insertTask, stored, taskRow, sameTask]

theorem taskRow_updateTask {f : TaskRow → TaskRow}
    (keeps : ∀ row, (f row).workspaceId = row.workspaceId) (taskId' workspaceId' : Str) :
    (s.updateTask taskId workspaceId f).taskRow taskId' workspaceId' =
      if taskId' = taskId ∧ workspaceId' = workspaceId then (s.taskRow taskId workspaceId).map f
      else s.taskRow taskId' workspaceId' := by
  cases stored : s.taskRow taskId workspaceId with
  | none =>
    simp only [updateTask, stored, Option.map_none]
    split
    · next same => rw [same.1, same.2, stored]
    · rfl
  | some row =>
    obtain ⟨found, inWorkspace⟩ := taskRow_some.mp stored
    simp only [updateTask, stored, Option.map_some]
    by_cases sameTask : taskId' = taskId
    · subst sameTask
      by_cases sameWorkspace : workspaceId' = workspaceId
      · simp [taskRow, keeps, inWorkspace, sameWorkspace]
      · have other : row.workspaceId ≠ workspaceId' := fun same =>
          sameWorkspace (same.symm.trans inWorkspace)
        simp [taskRow, Option.filter_some, keeps, found, sameWorkspace, other]
    · simp [taskRow, sameTask]

/-! Reading a task creates its row where the id is free, and is not seen in any view. -/

@[simp] theorem view_insertTask {row : TaskRow} (fresh : row.view = (.active, {})) :
    (s.insertTask taskId row).view = s.view := by
  funext taskId' workspaceId'
  simp only [view, taskRow_insertTask]
  split
  · next created =>
    have absent : s.taskRow taskId' workspaceId' = none := by
      rw [taskRow, created.2.1, created.1]
      rfl
    rw [absent, Option.map_some, Option.map_none, Option.getD_some, Option.getD_none, fresh]
  · rfl

@[simp] theorem view_getOrCreateTaskState (agentId : Str) :
    (s.getOrCreateTaskState taskId workspaceId agentId).2.view = s.view := by
  rw [getOrCreateTaskState]
  split
  · rfl
  · exact view_insertTask rfl

@[simp] theorem getOrCreateTaskState_view (agentId : Str) :
    (s.getOrCreateTaskState taskId workspaceId agentId).1.view = s.view taskId workspaceId := by
  simp only [getOrCreateTaskState, view]
  cases s.taskRow taskId workspaceId with
  | none => rfl
  | some row => rfl

/-- The id is free, or taken by a row of this workspace. -/
def ownable (s : Store) (taskId workspaceId : Str) : Bool :=
  (s.tasks taskId).all fun row => row.workspaceId = workspaceId

theorem view_of_not_ownable (foreign : s.ownable taskId workspaceId = false) :
    s.view taskId workspaceId = (.active, {}) := by
  rw [ownable] at foreign
  cases taken : s.tasks taskId with
  | none => simp [taken] at foreign
  | some row =>
    have elsewhere : row.workspaceId ≠ workspaceId := by simpa [taken] using foreign
    simp [view, taskRow, taken, Option.filter_some, elsewhere]

theorem owned_getOrCreateTaskState (agentId : Str) :
    (s.getOrCreateTaskState taskId workspaceId agentId).2.owned taskId workspaceId =
      s.ownable taskId workspaceId := by
  rw [getOrCreateTaskState]
  cases stored : s.taskRow taskId workspaceId with
  | some row =>
    obtain ⟨found, inWorkspace⟩ := taskRow_some.mp stored
    simp [owned, stored, ownable, found, inWorkspace]
  | none =>
    simp only [owned, taskRow_insertTask, and_true, ownable]
    cases taken : s.tasks taskId with
    | none => simp
    | some row =>
      have elsewhere : row.workspaceId ≠ workspaceId := by
        intro same
        rw [taskRow_some.mpr ⟨taken, same⟩] at stored
        cases stored
      simp [stored, elsewhere]

theorem view_updateTask {f : TaskRow → TaskRow}
    {g : TaskLifecycleState × TaskMetrics → TaskLifecycleState × TaskMetrics}
    (keeps : ∀ row, (f row).workspaceId = row.workspaceId)
    (views : ∀ row, (f row).view = g row.view) (taskId' workspaceId' : Str) :
    (s.updateTask taskId workspaceId f).view taskId' workspaceId' =
      if (taskId' = taskId ∧ workspaceId' = workspaceId) ∧ s.owned taskId workspaceId then
        g (s.view taskId workspaceId)
      else s.view taskId' workspaceId' := by
  simp only [view, taskRow_updateTask keeps]
  by_cases same : taskId' = taskId ∧ workspaceId' = workspaceId
  · obtain ⟨rfl, rfl⟩ := same
    cases stored : s.taskRow taskId' workspaceId' with
    | none => simp [stored, owned]
    | some row => simp [stored, owned, views]
  · simp [same]

theorem owned_updateTask {f : TaskRow → TaskRow}
    (keeps : ∀ row, (f row).workspaceId = row.workspaceId) :
    (s.updateTask taskId workspaceId f).owned = s.owned := by
  funext taskId' workspaceId'
  simp only [owned, taskRow_updateTask keeps]
  split
  · next same => rw [Option.isSome_map, same.1, same.2]
  · rfl

end Store

/-! ## What an update changes -/

def GuardrailDecisionType.next (decision : GuardrailDecisionType)
    (state : TaskLifecycleState) : TaskLifecycleState :=
  match decision with
  | .pause => .paused
  | .stop => .stopped
  | _ => state

namespace Store

variable {s : Store} {taskId workspaceId : Str}

theorem updateTask_same : s.updateTask taskId workspaceId (fun row => row) = s := by
  rw [updateTask]
  split
  · next row stored =>
    have found := (taskRow_some.mp stored).1
    rw [← found, Function.update_eq_self]
  · rfl

def follow (row : TaskRow) (decision : GuardrailDecision) : TaskRow :=
  match decision.decision with
  | .pause => row.pause decision.reason
  | .stop => row.stop decision.reason
  | _ => row

theorem enforce_eq (event : RuntimeTelemetryEvent) (decision : GuardrailDecision) :
    s.enforce event decision =
      s.updateTask event.taskId event.workspaceId fun row => follow row decision := by
  simp only [enforce, follow]
  cases decision.decision with
  | pause => rfl
  | stop => rfl
  | allow => exact updateTask_same.symm
  | deny => exact updateTask_same.symm

theorem workspaceId_follow (decision : GuardrailDecision) (row : TaskRow) :
    (follow row decision).workspaceId = row.workspaceId := by
  rw [follow]
  split <;> rfl

theorem view_follow (decision : GuardrailDecision) (row : TaskRow) :
    (follow row decision).view = (decision.decision.next row.view.1, row.view.2) := by
  rw [follow]
  cases decision.decision <;> rfl

theorem view_updateTaskMetrics (event : RuntimeTelemetryEvent) :
    (s.updateTaskMetrics event).view taskId workspaceId =
      if (taskId = event.taskId ∧ workspaceId = event.workspaceId) ∧
          s.owned event.taskId event.workspaceId then
        (s.state event.taskId event.workspaceId,
          (s.metrics event.taskId event.workspaceId).count event (resetsToolErrors event))
      else s.view taskId workspaceId := by
  rw [updateTaskMetrics, view_getOrCreateTaskState]
  exact view_updateTask (f := (·.count event (resetsToolErrors event)))
    (g := fun view => (view.1, view.2.count event (resetsToolErrors event)))
    (fun _ => rfl) (fun _ => rfl) taskId workspaceId

theorem view_enforce (event : RuntimeTelemetryEvent) (decision : GuardrailDecision) :
    (s.enforce event decision).view taskId workspaceId =
      if (taskId = event.taskId ∧ workspaceId = event.workspaceId) ∧
          s.owned event.taskId event.workspaceId then
        (decision.decision.next (s.state event.taskId event.workspaceId),
          s.metrics event.taskId event.workspaceId)
      else s.view taskId workspaceId := by
  rw [enforce_eq]
  exact view_updateTask (g := fun view => (decision.decision.next view.1, view.2))
    (workspaceId_follow decision) (view_follow decision) taskId workspaceId

theorem metrics_enforce (event : RuntimeTelemetryEvent) (decision : GuardrailDecision) :
    (s.enforce event decision).metrics taskId workspaceId = s.metrics taskId workspaceId := by
  rw [metrics, view_enforce]
  split
  · next both => rw [both.1.1, both.1.2]
  · rfl

theorem state_updateTaskMetrics (event : RuntimeTelemetryEvent) :
    (s.updateTaskMetrics event).state taskId workspaceId = s.state taskId workspaceId := by
  rw [state, view_updateTaskMetrics]
  split
  · next both => rw [both.1.1, both.1.2]
  · rfl

theorem activePolicies_savePolicy {policy : GuardrailPolicy} (active : policy.isActive = true) :
    (s.savePolicy policy).activePolicies policy.workspaceId =
      (s.activePolicies policy.workspaceId).filter
        (fun other => other.policyId ≠ policy.policyId) ++ [policy] := by
  rw [activePolicies, savePolicy, List.filter_append, List.filter_comm, activePolicies]
  congr 1
  simp [active]

theorem activePolicies_eq_nil (none : s.getPolicy workspaceId = none) :
    s.activePolicies workspaceId = [] := by
  by_contra some
  have found : (s.getPolicy workspaceId).isSome := List.isSome_maxOn?_iff.mpr some
  simp [none] at found

theorem view_resume (operator taskId' workspaceId' : Str) :
    (s.updateTask taskId workspaceId (·.resume operator)).view taskId' workspaceId' =
      if (taskId' = taskId ∧ workspaceId' = workspaceId) ∧ s.owned taskId workspaceId then
        (.active, (s.metrics taskId workspaceId).resume)
      else s.view taskId' workspaceId' :=
  view_updateTask (f := (·.resume operator)) (g := fun view => (.active, view.2.resume))
    (fun _ => rfl) (fun _ => rfl) taskId' workspaceId'

@[simp] theorem policies_updateTask (f : TaskRow → TaskRow) :
    (s.updateTask taskId workspaceId f).policies = s.policies := by
  rw [updateTask]
  split <;> rfl

@[simp] theorem policies_insertTask (row : TaskRow) :
    (s.insertTask taskId row).policies = s.policies := by
  rw [insertTask]
  split <;> rfl

@[simp] theorem policies_getOrCreateTaskState (agentId : Str) :
    (s.getOrCreateTaskState taskId workspaceId agentId).2.policies = s.policies := by
  rw [getOrCreateTaskState]
  split
  · rfl
  · exact policies_insertTask _

@[simp] theorem policies_recordEventIngestion (ingestion : Ingestion) :
    (s.recordEventIngestion ingestion).policies = s.policies := by
  rw [recordEventIngestion]
  split <;> rfl

@[simp] theorem owned_enforce (event : RuntimeTelemetryEvent) (decision : GuardrailDecision) :
    (s.enforce event decision).owned = s.owned := by
  rw [enforce_eq]
  exact owned_updateTask (workspaceId_follow decision)

@[simp] theorem ingested_insertTask (row : TaskRow) :
    (s.insertTask taskId row).ingested = s.ingested := by
  rw [insertTask]
  split <;> rfl

@[simp] theorem ingested_getOrCreateTaskState (agentId : Str) :
    (s.getOrCreateTaskState taskId workspaceId agentId).2.ingested = s.ingested := by
  rw [getOrCreateTaskState]
  split
  · rfl
  · exact ingested_insertTask _

@[simp] theorem ingested_updateTask (f : TaskRow → TaskRow) :
    (s.updateTask taskId workspaceId f).ingested = s.ingested := by
  rw [updateTask]
  split <;> rfl

@[simp] theorem ingested_enforce (event : RuntimeTelemetryEvent)
    (decision : GuardrailDecision) : (s.enforce event decision).ingested = s.ingested := by
  rw [enforce_eq, ingested_updateTask]

@[simp] theorem ingested_recordDecision (decision : GuardrailDecision) :
    (s.recordDecision decision).ingested = s.ingested := rfl

@[simp] theorem ingested_updateTaskMetrics :
    (s.updateTaskMetrics event).ingested = s.ingested := by
  rw [updateTaskMetrics, ingested_getOrCreateTaskState, ingested_updateTask]

theorem isEventDuplicate_recordEventIngestion (ingestion : Ingestion) (eventId : Str) :
    (s.recordEventIngestion ingestion).isEventDuplicate eventId =
      (s.isEventDuplicate eventId || ingestion.eventId = eventId) := by
  rw [recordEventIngestion]
  split
  · next known =>
    by_cases same : ingestion.eventId = eventId
    · rw [← same, known, Bool.true_or]
    · simp [same]
  · simp [isEventDuplicate]

end Store

end BurnLens.Guardrails
