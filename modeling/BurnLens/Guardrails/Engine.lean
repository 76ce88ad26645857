import BurnLens.Guardrails.Storage
import BurnLens.Library.Machine

/-! # Guardrail engine

The two calls that change the guardrail tables: the evaluation of an event and the resumption
of a paused task.
-/

namespace BurnLens.Guardrails

open Library hiding lower

def defaultPolicy (workspaceId : Str) : GuardrailPolicy where
  policyId := "pol-guard-" ++ workspaceId
  workspaceId := workspaceId
  name := "Default Workspace Guardrails"

def getOrCreateDefaultPolicy (s : Store) (workspaceId : Str) : GuardrailPolicy × Store :=
  match s.getPolicy workspaceId with
  | some policy => (policy, s)
  | none => (defaultPolicy workspaceId, s.savePolicy (defaultPolicy workspaceId))

def RuntimeTelemetryEvent.answer (event : RuntimeTelemetryEvent)
    (decision : GuardrailDecisionType) (failureType : GuardrailFailureType) (reason : Str)
    (currentMetrics : CurrentMetrics) : GuardrailDecision where
  workspaceId := event.workspaceId
  agentId := event.agentId
  taskId := event.taskId
  decision := decision
  failureType := failureType
  reason := reason
  currentMetrics := currentMetrics

def duplicateAnswer (event : RuntimeTelemetryEvent) : GuardrailDecision :=
  event.answer .allow .none "Duplicate telemetry event deduplicated idempotently." .empty

def failSafeAnswer (event : RuntimeTelemetryEvent) : FailSafeMode → GuardrailDecision
  | .failClosed => event.answer .deny .forbiddenAction
      "FAIL_CLOSED: Control plane unavailable; high-risk actions denied safely." .empty
  | .failOpen => event.answer .allow .none
      "FAIL_OPEN: Control plane unavailable; read-only operations permitted." .empty

/-- `reason or default`. -/
def reasonOr (reason : Option Str) (default : Str) : Str :=
  match reason with
  | none | some [] => default
  | some reason => reason

def stoppedAnswer (event : RuntimeTelemetryEvent) (task : TaskRow) : GuardrailDecision :=
  event.answer .stop .hardBudgetExceeded
    ("Task is STOPPED: " ++
      reasonOr task.stoppedReason "Hard budget or terminal failure reached.")
    (.spend task.metrics.totalCostUsd)

def pausedAnswer (event : RuntimeTelemetryEvent) (task : TaskRow) : GuardrailDecision :=
  event.answer .pause .runawayTask
    ("Task is PAUSED: " ++ reasonOr task.pausedReason "Awaiting operator investigation.")
    (.spend task.metrics.totalCostUsd)

def RuntimeTelemetryEvent.ingestion (event : RuntimeTelemetryEvent) : Ingestion :=
  ⟨event.eventId, event.workspaceId, event.taskId⟩

variable (lower : Str → Str)

/-- Steps 4 to 6 of `evaluate_runtime_event`, for a task that is neither stopped nor paused. -/
def detect (s : Store) (event : RuntimeTelemetryEvent) (task : TaskRow) :
    GuardrailDecision × Store :=
  let (policy, s) := getOrCreateDefaultPolicy s event.workspaceId
  let decision := evaluate lower event task.metrics policy
  (decision, ((s.enforce event decision).updateTaskMetrics event).recordDecision decision)

/-- The mark that the event is ingested, and the task it is for. -/
def Store.enroll (s : Store) (event : RuntimeTelemetryEvent) : TaskRow × Store :=
  (s.recordEventIngestion event.ingestion).getOrCreateTaskState
    event.taskId event.workspaceId event.agentId

def evaluateRuntimeEvent (s : Store) (event : RuntimeTelemetryEvent)
    (simulateControlPlaneFailure : Bool) : GuardrailDecision × Store :=
  if s.isEventDuplicate event.eventId then (duplicateAnswer event, s)
  else if simulateControlPlaneFailure then
    let (policy, s) := getOrCreateDefaultPolicy s event.workspaceId
    (failSafeAnswer event policy.failSafeMode, s)
  else
    let (task, s) := s.enroll event
    match task.state with
    | .stopped => (stoppedAnswer event task, s.recordDecision (stoppedAnswer event task))
    | .paused => (pausedAnswer event task, s.recordDecision (pausedAnswer event task))
    | _ => detect lower s event task

def notPaused (taskId : Str) (state : TaskLifecycleState) : Str :=
  "Task '" ++ taskId ++ "' is in state '" ++ state.value ++ "', not PAUSED. Cannot resume."

/-- The task as it is after the resumption, or the text of the `ValueError`. -/
def resumeTask (s : Store) (taskId workspaceId operator : Str) : Except Str TaskRow × Store :=
  let (task, s) := s.getOrCreateTaskState taskId workspaceId []
  match task.state with
  | .paused =>
    let s := s.updateTask taskId workspaceId (·.resume operator)
    let (task, s) := s.getOrCreateTaskState taskId workspaceId []
    (.ok task, s)
  | state => (.error (notPaused taskId state), s)

inductive Request where
  | evaluate (event : RuntimeTelemetryEvent) (simulateControlPlaneFailure : Bool)
  | resume (taskId workspaceId operator : Str)

inductive Answer where
  | decision (decision : GuardrailDecision)
  | task (task : Except Str TaskRow)

def Request.answer (s : Store) : Request → Answer
  | .evaluate event simulate => .decision (evaluateRuntimeEvent lower s event simulate).1
  | .resume taskId workspaceId operator => .task (resumeTask s taskId workspaceId operator).1

def Request.perform (s : Store) : Request → Store
  | .evaluate event simulate => (evaluateRuntimeEvent lower s event simulate).2
  | .resume taskId workspaceId operator => (resumeTask s taskId workspaceId operator).2

def engine : Machine Store Request where
  step s request := some (request.perform lower s)

/-! ## What a call does to a task -/

variable {lower : Str → Str} {s : Store} {event : RuntimeTelemetryEvent} {task : TaskRow}

@[simp] theorem Store.tasks_getOrCreateDefaultPolicy {workspaceId : Str} :
    (getOrCreateDefaultPolicy s workspaceId).2.tasks = s.tasks := by
  rw [getOrCreateDefaultPolicy]
  split <;> rfl

@[simp] theorem Store.ingested_getOrCreateDefaultPolicy {workspaceId : Str} :
    (getOrCreateDefaultPolicy s workspaceId).2.ingested = s.ingested := by
  rw [getOrCreateDefaultPolicy]
  split <;> rfl

theorem policy_eq_of_policies {s s' : Store} (same : s.policies = s'.policies)
    (workspaceId : Str) :
    (getOrCreateDefaultPolicy s workspaceId).1 = (getOrCreateDefaultPolicy s' workspaceId).1 := by
  simp only [getOrCreateDefaultPolicy, Store.getPolicy, Store.activePolicies, same]
  split <;> rfl

theorem policies_enroll (s : Store) (event : RuntimeTelemetryEvent) :
    (s.enroll event).2.policies = s.policies := by
  rw [Store.enroll, Store.policies_getOrCreateTaskState, Store.policies_recordEventIngestion]

theorem detect_decision : (detect lower s event task).1 =
    evaluate lower event task.metrics (getOrCreateDefaultPolicy s event.workspaceId).1 := rfl

/-- What an evaluation that reaches the detector does to the tasks: it moves the task on and
    counts the event, provided that the task has its row in the workspace of the event. -/
theorem view_detect (taskId workspaceId : Str) :
    (detect lower s event task).2.view taskId workspaceId =
      if (taskId = event.taskId ∧ workspaceId = event.workspaceId) ∧
          s.owned event.taskId event.workspaceId then
        ((detect lower s event task).1.decision.next (s.state event.taskId event.workspaceId),
          (s.metrics event.taskId event.workspaceId).count event (Store.resetsToolErrors event))
      else s.view taskId workspaceId := by
  simp only [detect]
  set configured := (getOrCreateDefaultPolicy s event.workspaceId).2
  set decision := evaluate lower event task.metrics (getOrCreateDefaultPolicy s event.workspaceId).1
  have sameTasks : configured.tasks = s.tasks := Store.tasks_getOrCreateDefaultPolicy
  have sameView := Store.view_eq_of_tasks sameTasks
  have sameOwned := Store.owned_eq_of_tasks sameTasks
  rw [Store.view_eq_of_tasks (Store.tasks_recordDecision _), Store.view_updateTaskMetrics,
    Store.owned_enforce, sameOwned]
  split
  · next both =>
    simp only [Store.state, Store.metrics, Store.view_enforce, sameOwned, sameView]
    simp [both.2]
  · next apart =>
    rw [Store.view_enforce, sameOwned, sameView]
    exact if_neg apart

@[simp] theorem view_enroll : (s.enroll event).2.view = s.view := by
  rw [Store.enroll, Store.view_getOrCreateTaskState,
    Store.view_eq_of_tasks (Store.tasks_recordEventIngestion _)]

theorem enroll_view : (s.enroll event).1.view = s.view event.taskId event.workspaceId := by
  rw [Store.enroll, Store.getOrCreateTaskState_view,
    Store.view_eq_of_tasks (Store.tasks_recordEventIngestion _)]

theorem owned_enroll :
    (s.enroll event).2.owned event.taskId event.workspaceId =
      s.ownable event.taskId event.workspaceId := by
  rw [Store.enroll, Store.owned_getOrCreateTaskState, Store.ownable, Store.ownable,
    Store.tasks_recordEventIngestion]

theorem enroll_state : (s.enroll event).1.state = s.state event.taskId event.workspaceId :=
  congrArg Prod.fst enroll_view

theorem enroll_metrics : (s.enroll event).1.metrics = s.metrics event.taskId event.workspaceId :=
  congrArg Prod.snd enroll_view

/-! The four ways through `evaluate_runtime_event`. -/

theorem evaluateRuntimeEvent_duplicate {simulate : Bool}
    (known : s.isEventDuplicate event.eventId = true) :
    evaluateRuntimeEvent lower s event simulate = (duplicateAnswer event, s) := by
  rw [evaluateRuntimeEvent, if_pos known]

theorem evaluateRuntimeEvent_unavailable (fresh : s.isEventDuplicate event.eventId = false) :
    evaluateRuntimeEvent lower s event true =
      (failSafeAnswer event (getOrCreateDefaultPolicy s event.workspaceId).1.failSafeMode,
        (getOrCreateDefaultPolicy s event.workspaceId).2) := by
  simp [evaluateRuntimeEvent, fresh]

theorem evaluateRuntimeEvent_stopped (fresh : s.isEventDuplicate event.eventId = false)
    (stopped : s.state event.taskId event.workspaceId = .stopped) :
    evaluateRuntimeEvent lower s event false =
      (stoppedAnswer event (s.enroll event).1,
        (s.enroll event).2.recordDecision (stoppedAnswer event (s.enroll event).1)) := by
  simp [evaluateRuntimeEvent, fresh, enroll_state, stopped]

theorem evaluateRuntimeEvent_paused (fresh : s.isEventDuplicate event.eventId = false)
    (paused : s.state event.taskId event.workspaceId = .paused) :
    evaluateRuntimeEvent lower s event false =
      (pausedAnswer event (s.enroll event).1,
        (s.enroll event).2.recordDecision (pausedAnswer event (s.enroll event).1)) := by
  simp [evaluateRuntimeEvent, fresh, enroll_state, paused]

theorem evaluateRuntimeEvent_detect (fresh : s.isEventDuplicate event.eventId = false)
    (notStopped : s.state event.taskId event.workspaceId ≠ .stopped)
    (notPaused : s.state event.taskId event.workspaceId ≠ .paused) :
    evaluateRuntimeEvent lower s event false =
      detect lower (s.enroll event).2 event (s.enroll event).1 := by
  simp only [evaluateRuntimeEvent, fresh, enroll_state]
  cases state : s.state event.taskId event.workspaceId with
  | stopped => exact absurd state notStopped
  | paused => exact absurd state notPaused
  | active => rfl
  | completed => rfl

/-- The event would be put to the detector. -/
def Store.reachesDetector (s : Store) (event : RuntimeTelemetryEvent) : Prop :=
  s.isEventDuplicate event.eventId = false ∧
    s.state event.taskId event.workspaceId ≠ .stopped ∧
    s.state event.taskId event.workspaceId ≠ .paused

instance : Decidable (s.reachesDetector event) := inferInstanceAs (Decidable (_ ∧ _ ∧ _))

/-- An evaluation changes no task but the one its event reaches the detector for. -/
theorem view_evaluateRuntimeEvent {simulate : Bool} (taskId workspaceId : Str) :
    (evaluateRuntimeEvent lower s event simulate).2.view taskId workspaceId =
      if (taskId = event.taskId ∧ workspaceId = event.workspaceId) ∧ simulate = false ∧
          s.reachesDetector event ∧ s.ownable event.taskId event.workspaceId then
        ((evaluateRuntimeEvent lower s event simulate).1.decision.next
            (s.state event.taskId event.workspaceId),
          (s.metrics event.taskId event.workspaceId).count event (Store.resetsToolErrors event))
      else s.view taskId workspaceId := by
  cases known : s.isEventDuplicate event.eventId with
  | true =>
    rw [evaluateRuntimeEvent_duplicate known, if_neg]
    rintro ⟨-, -, ⟨fresh, -⟩, -⟩
    simp [known] at fresh
  | false =>
    cases simulate with
    | true =>
      rw [evaluateRuntimeEvent_unavailable known, if_neg (by simp)]
      rw [Store.view_eq_of_tasks Store.tasks_getOrCreateDefaultPolicy]
    | false =>
      by_cases stopped : s.state event.taskId event.workspaceId = .stopped
      · rw [evaluateRuntimeEvent_stopped known stopped, if_neg]
        · rw [Store.view_eq_of_tasks (Store.tasks_recordDecision _), view_enroll]
        · rintro ⟨-, -, ⟨-, moving, -⟩, -⟩
          exact moving stopped
      by_cases paused : s.state event.taskId event.workspaceId = .paused
      · rw [evaluateRuntimeEvent_paused known paused, if_neg]
        · rw [Store.view_eq_of_tasks (Store.tasks_recordDecision _), view_enroll]
        · rintro ⟨-, -, ⟨-, -, moving⟩, -⟩
          exact moving paused
      have reached : s.reachesDetector event := ⟨known, stopped, paused⟩
      rw [evaluateRuntimeEvent_detect known stopped paused, view_detect, owned_enroll]
      simp only [Store.state, Store.metrics, view_enroll]
      simp [reached]

theorem Store.owned_of_paused {taskId workspaceId : Str}
    (paused : s.state taskId workspaceId = .paused) : s.owned taskId workspaceId = true := by
  simp only [Store.state, Store.view] at paused
  rw [Store.owned]
  cases stored : s.taskRow taskId workspaceId with
  | none => rw [stored] at paused; cases paused
  | some row => rfl

theorem resumeTask_view (taskId workspaceId operator taskId' workspaceId' : Str) :
    (resumeTask s taskId workspaceId operator).2.view taskId' workspaceId' =
      if (taskId' = taskId ∧ workspaceId' = workspaceId) ∧
          s.state taskId workspaceId = .paused then
        (.active, (s.metrics taskId workspaceId).resume)
      else s.view taskId' workspaceId' := by
  have read : (s.getOrCreateTaskState taskId workspaceId []).1.state = s.state taskId workspaceId :=
    congrArg Prod.fst (Store.getOrCreateTaskState_view [])
  by_cases paused : s.state taskId workspaceId = .paused
  · have stays : s.getOrCreateTaskState taskId workspaceId [] =
        ((s.getOrCreateTaskState taskId workspaceId []).1, s) := by
      obtain ⟨row, stored⟩ := Option.isSome_iff_exists.mp (Store.owned_of_paused paused)
      simp only [Store.getOrCreateTaskState, stored]
    rw [resumeTask, stays]
    simp only [read, paused]
    rw [Store.view_getOrCreateTaskState, Store.view_resume, Store.owned_of_paused paused]
    simp
  · have unchanged : (resumeTask s taskId workspaceId operator).2 =
        (s.getOrCreateTaskState taskId workspaceId []).2 := by
      simp only [resumeTask, read]
    rw [unchanged, Store.view_getOrCreateTaskState, if_neg fun both => paused both.2]

theorem ingested_enroll (fresh : s.isEventDuplicate event.eventId = false) :
    (s.enroll event).2.ingested = s.ingested ++ [event.ingestion] := by
  rw [Store.enroll, Store.ingested_getOrCreateTaskState, Store.recordEventIngestion]
  exact congrArg Store.ingested (if_neg (by simpa [RuntimeTelemetryEvent.ingestion] using fresh))

theorem ingested_evaluateRuntimeEvent {simulate : Bool} :
    (evaluateRuntimeEvent lower s event simulate).2.ingested =
      if s.isEventDuplicate event.eventId = false ∧ simulate = false then
        s.ingested ++ [event.ingestion]
      else s.ingested := by
  cases known : s.isEventDuplicate event.eventId with
  | true => simp [evaluateRuntimeEvent_duplicate known]
  | false =>
    cases simulate with
    | true => simp [evaluateRuntimeEvent_unavailable known]
    | false =>
      rw [evaluateRuntimeEvent, if_neg (by simp [known])]
      simp only [and_self, if_true, ← ingested_enroll known]
      cases (s.enroll event).1.state <;> simp [detect]

theorem ingested_resumeTask (taskId workspaceId operator : Str) :
    (resumeTask s taskId workspaceId operator).2.ingested = s.ingested := by
  simp only [resumeTask]
  split
  · rw [Store.ingested_getOrCreateTaskState, Store.ingested_updateTask,
      Store.ingested_getOrCreateTaskState]
  · exact Store.ingested_getOrCreateTaskState []

end BurnLens.Guardrails
