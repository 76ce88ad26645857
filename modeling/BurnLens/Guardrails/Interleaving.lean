import BurnLens.Guardrails.Engine

/-! # Concurrent calls on one task

The calls of the engine cut into their storage statements.  Each statement is a transaction of
its own; the statements of different calls come in any order.  The reads at the end of a metric
update and of a resumption belong to the update.
-/

namespace BurnLens.Guardrails

open Library hiding lower

def Request.isAbout (taskId workspaceId : Str) : Request → Prop
  | .evaluate event _ => event.taskId = taskId ∧ event.workspaceId = workspaceId
  | .resume taskId' workspaceId' _ => taskId' = taskId ∧ workspaceId' = workspaceId

/-- Calls on one task of one workspace. -/
structure Session (Caller : Type*) where
  lower : Str → Str
  taskId : Str
  workspaceId : Str
  call : Caller → Request
  about : ∀ i, (call i).isAbout taskId workspaceId

/-- The statement that a call is about to execute. -/
inductive Phase where
  -- the duplicate test
  | testing
  | ingesting
  -- the select of the task, and the insert where it found none
  | reading
  | creating
  -- the select of the policy, and the insert of the default; without metrics, the control
  -- plane is unavailable
  | configuring (metrics : Option TaskMetrics)
  | installing (metrics : Option TaskMetrics)
  -- the state write of a decision
  | enforcing (decision : GuardrailDecision)
  -- the metric update
  | counting (decision : GuardrailDecision)
  | recording (decision : GuardrailDecision)
  -- the state write of a resumption
  | resuming
  | answered (answer : Answer)

structure State (Caller : Type*) where
  store : Store
  phase : Caller → Phase
  -- the events that were added to the totals of the task
  contributed : List RuntimeTelemetryEvent

variable {Caller : Type*} [DecidableEq Caller]

def State.move (s : State Caller) (i : Caller) (next : Phase) : State Caller :=
  { s with phase := Function.update s.phase i next }

/-- The metric update; an update that finds no row of the workspace adds nothing. -/
def State.count (s : State Caller) (event : RuntimeTelemetryEvent) : State Caller :=
  { s with
    store := s.store.updateTaskMetrics event
    contributed :=
      if s.store.owned event.taskId event.workspaceId then s.contributed ++ [event]
      else s.contributed }

namespace Session

variable (p : Session Caller)

/-- What follows the policy: the fail-safe answer, or the decision of the detector. -/
def settle (event : RuntimeTelemetryEvent) (policy : GuardrailPolicy) :
    Option TaskMetrics → Phase
  | none => .answered (.decision (failSafeAnswer event policy.failSafeMode))
  | some metrics => .enforcing (evaluate p.lower event metrics policy)

def consider (event : RuntimeTelemetryEvent) (row : TaskRow) : Phase :=
  match row.state with
  | .stopped => .recording (stoppedAnswer event row)
  | .paused => .recording (pausedAnswer event row)
  | _ => .configuring (some row.metrics)

def advanceEvaluation (s : State Caller) (i : Caller) (event : RuntimeTelemetryEvent)
    (simulateControlPlaneFailure : Bool) : Option (State Caller) :=
  match s.phase i with
  | .testing =>
    if s.store.isEventDuplicate event.eventId then
      some (s.move i (.answered (.decision (duplicateAnswer event))))
    else if simulateControlPlaneFailure then some (s.move i (.configuring none))
    else some (s.move i .ingesting)
  | .ingesting =>
    some ({ s with store := s.store.recordEventIngestion event.ingestion }.move i .reading)
  | .reading =>
    match s.store.taskRow event.taskId event.workspaceId with
    | some row => some (s.move i (consider event row))
    | none => some (s.move i .creating)
  | .creating =>
    some ({ s with
      store := s.store.insertTask event.taskId
        { workspaceId := event.workspaceId, agentId := event.agentId } }.move i
          (.configuring (some {})))
  | .configuring metrics =>
    match s.store.getPolicy event.workspaceId with
    | some policy => some (s.move i (p.settle event policy metrics))
    | none => some (s.move i (.installing metrics))
  | .installing metrics =>
    some ({ s with store := s.store.savePolicy (defaultPolicy event.workspaceId) }.move i
      (p.settle event (defaultPolicy event.workspaceId) metrics))
  | .enforcing decision =>
    some ({ s with store := s.store.enforce event decision }.move i (.counting decision))
  | .counting decision => some ((s.count event).move i (.recording decision))
  | .recording decision =>
    some ({ s with store := s.store.recordDecision decision }.move i
      (.answered (.decision decision)))
  | .resuming | .answered _ => none

def advanceResumption (s : State Caller) (i : Caller) (operator : Str) :
    Option (State Caller) :=
  match s.phase i with
  | .reading =>
    match s.store.taskRow p.taskId p.workspaceId with
    | some row =>
      some (s.move i (if row.state = .paused then .resuming
        else .answered (.task (.error (notPaused p.taskId row.state)))))
    | none => some (s.move i .creating)
  | .creating =>
    let row : TaskRow := { workspaceId := p.workspaceId, agentId := [] }
    some ({ s with store := s.store.insertTask p.taskId row }.move i
      (.answered (.task (.error (notPaused p.taskId row.state)))))
  | .resuming =>
    let store := s.store.updateTask p.taskId p.workspaceId (·.resume operator)
    -- the row that is read here exists, a resumption starts from one
    some ({ s with store := store }.move i
      (.answered (.task (.ok (store.getOrCreateTaskState p.taskId p.workspaceId []).1))))
  | _ => none

def advance (s : State Caller) (i : Caller) : Option (State Caller) :=
  match p.call i with
  | .evaluate event simulate => p.advanceEvaluation s i event simulate
  | .resume _ _ operator => p.advanceResumption s i operator

def machine : Machine (State Caller) Caller where
  step := p.advance

def start (store : Store) : State Caller where
  store := store
  phase i :=
    match p.call i with
    | .evaluate .. => .testing
    | .resume .. => .reading
  contributed := []

/-! ## A call on its own -/

variable {p} {s s' : State Caller} {i : Caller} {store : Store}
  {answer : Answer} {event : RuntimeTelemetryEvent} {simulate : Bool}

/-- Left alone, the call gives this answer, and leaves this store. -/
def Finishes (p : Session Caller) (s : State Caller) (i : Caller) (answer : Answer)
    (store : Store) : Prop :=
  ∃ statements s', p.machine.run s (List.replicate statements i) = some s' ∧
    s'.store = store ∧ s'.phase i = .answered answer

theorem Finishes.of_step (stepped : p.advance s i = some s')
    (finishes : p.Finishes s' i answer store) : p.Finishes s i answer store := by
  obtain ⟨statements, last, ran, rest⟩ := finishes
  have stepped : p.machine.step s i = some s' := stepped
  refine ⟨statements + 1, last, ?_, rest⟩
  rw [List.replicate_succ, Machine.run_cons, stepped]
  exact ran

theorem finishes_answered (answered : s.phase i = .answered answer) :
    p.Finishes s i answer s.store :=
  ⟨0, s, rfl, rfl, answered⟩

@[simp] theorem move_phase (next : Phase) : (s.move i next).phase i = next := by
  simp [State.move]

@[simp] theorem move_store (next : Phase) : (s.move i next).store = s.store := rfl

theorem advance_evaluation (called : p.call i = .evaluate event simulate) :
    p.advance s i = p.advanceEvaluation s i event simulate := by
  simp only [advance, called]

theorem advance_resumption {taskId workspaceId operator : Str}
    (called : p.call i = .resume taskId workspaceId operator) :
    p.advance s i = p.advanceResumption s i operator := by
  simp only [advance, called]

theorem finishes_recording {decision : GuardrailDecision}
    (called : p.call i = .evaluate event simulate) (recording : s.phase i = .recording decision) :
    p.Finishes s i (.decision decision) (s.store.recordDecision decision) := by
  apply Finishes.of_step
  · rw [advance_evaluation called, advanceEvaluation, recording]
  · exact finishes_answered (move_phase _)

theorem finishes_counting {decision : GuardrailDecision}
    (called : p.call i = .evaluate event simulate) (counting : s.phase i = .counting decision) :
    p.Finishes s i (.decision decision)
      ((s.store.updateTaskMetrics event).recordDecision decision) := by
  apply Finishes.of_step
  · rw [advance_evaluation called, advanceEvaluation, counting]
  · exact finishes_recording called (move_phase _)

theorem finishes_enforcing {decision : GuardrailDecision}
    (called : p.call i = .evaluate event simulate) (enforcing : s.phase i = .enforcing decision) :
    p.Finishes s i (.decision decision)
      (((s.store.enforce event decision).updateTaskMetrics event).recordDecision decision) := by
  apply Finishes.of_step
  · rw [advance_evaluation called, advanceEvaluation, enforcing]
  · exact finishes_counting called (move_phase _)

theorem finishes_configuring {task : TaskRow} (called : p.call i = .evaluate event simulate)
    (configuring : s.phase i = .configuring (some task.metrics)) :
    p.Finishes s i (.decision (detect p.lower s.store event task).1)
      (detect p.lower s.store event task).2 := by
  rw [detect, getOrCreateDefaultPolicy]
  cases stored : s.store.getPolicy event.workspaceId with
  | some policy =>
    apply Finishes.of_step
    · rw [advance_evaluation called, advanceEvaluation, configuring]
      simp only [stored]
      rfl
    · exact finishes_enforcing called (move_phase _)
  | none =>
    apply Finishes.of_step
    · rw [advance_evaluation called, advanceEvaluation, configuring]
      simp only [stored]
      rfl
    apply Finishes.of_step
    · rw [advance_evaluation called, advanceEvaluation, move_phase]
    · exact finishes_enforcing called (move_phase _)

theorem finishes_unavailable (called : p.call i = .evaluate event simulate)
    (configuring : s.phase i = .configuring none) :
    p.Finishes s i
      (.decision (failSafeAnswer event
        (getOrCreateDefaultPolicy s.store event.workspaceId).1.failSafeMode))
      (getOrCreateDefaultPolicy s.store event.workspaceId).2 := by
  rw [getOrCreateDefaultPolicy]
  cases stored : s.store.getPolicy event.workspaceId with
  | some policy =>
    apply Finishes.of_step
    · rw [advance_evaluation called, advanceEvaluation, configuring]
      simp only [stored]
      rfl
    · exact finishes_answered (move_phase _)
  | none =>
    apply Finishes.of_step
    · rw [advance_evaluation called, advanceEvaluation, configuring]
      simp only [stored]
      rfl
    apply Finishes.of_step
    · rw [advance_evaluation called, advanceEvaluation, move_phase]
    · exact finishes_answered (move_phase _)

/-- What a call makes of the task that it has read. -/
def considered (lower : Str → Str) (event : RuntimeTelemetryEvent) (task : TaskRow)
    (store : Store) : GuardrailDecision × Store :=
  match task.state with
  | .stopped => (stoppedAnswer event task, store.recordDecision (stoppedAnswer event task))
  | .paused => (pausedAnswer event task, store.recordDecision (pausedAnswer event task))
  | _ => detect lower store event task

theorem finishes_considering {task : TaskRow} (called : p.call i = .evaluate event simulate)
    (considering : s.phase i = consider event task) :
    p.Finishes s i (.decision (considered p.lower event task s.store).1)
      (considered p.lower event task s.store).2 := by
  rw [consider] at considering
  rw [considered]
  cases lifecycle : task.state with
  | stopped | paused =>
    rw [lifecycle] at considering
    exact finishes_recording called considering
  | active | completed =>
    rw [lifecycle] at considering
    exact finishes_configuring called considering

theorem finishes_reading (called : p.call i = .evaluate event simulate)
    (reading : s.phase i = .reading) :
    let (task, store) := s.store.getOrCreateTaskState event.taskId event.workspaceId event.agentId
    p.Finishes s i (.decision (considered p.lower event task store).1)
      (considered p.lower event task store).2 := by
  rw [Store.getOrCreateTaskState]
  cases found : s.store.taskRow event.taskId event.workspaceId with
  | some row =>
    apply Finishes.of_step
    · rw [advance_evaluation called, advanceEvaluation, reading]
      simp only [found]
      rfl
    · exact finishes_considering called (move_phase _)
  | none =>
    apply Finishes.of_step
    · rw [advance_evaluation called, advanceEvaluation, reading]
      simp only [found]
      rfl
    apply Finishes.of_step
    · rw [advance_evaluation called, advanceEvaluation, move_phase]
    · exact finishes_configuring called (move_phase _)

theorem finishes_resumption {operator : Str}
    (called : p.call i = .resume p.taskId p.workspaceId operator) (reading : s.phase i = .reading) :
    p.Finishes s i (.task (resumeTask s.store p.taskId p.workspaceId operator).1)
      (resumeTask s.store p.taskId p.workspaceId operator).2 := by
  rw [resumeTask, Store.getOrCreateTaskState]
  cases found : s.store.taskRow p.taskId p.workspaceId with
  | none =>
    apply Finishes.of_step
    · rw [advance_resumption called, advanceResumption, reading]
      simp only [found]
      rfl
    apply Finishes.of_step
    · rw [advance_resumption called, advanceResumption, move_phase]
    · exact finishes_answered (move_phase _)
  | some row =>
    apply Finishes.of_step
    · rw [advance_resumption called, advanceResumption, reading]
      simp only [found]
      rfl
    by_cases paused : row.state = .paused
    · -- the row that was resumed is there when it is read again
      have again : (s.store.updateTask p.taskId p.workspaceId (·.resume operator)).taskRow p.taskId
          p.workspaceId = some (row.resume operator) := by
        have keeps : ∀ row : TaskRow, (row.resume operator).workspaceId = row.workspaceId :=
          fun _ => rfl
        rw [Store.taskRow_updateTask keeps, if_pos ⟨rfl, rfl⟩, found, Option.map_some]
      rw [if_pos paused]
      apply Finishes.of_step
      · rw [advance_resumption called, advanceResumption, move_phase]
      · simp only [paused, Store.getOrCreateTaskState, again]
        apply finishes_answered
        rw [move_phase, move_store, again]
    · rw [if_neg paused]
      simp only
      exact finishes_answered (move_phase _)

/-- A call that no other one interrupts does and answers what the engine does in one piece. -/
theorem finishes_alone (p : Session Caller) (store : Store) (i : Caller) :
    p.Finishes (p.start store) i ((p.call i).answer p.lower store)
      ((p.call i).perform p.lower store) := by
  have started : (p.start store).phase i = match p.call i with
    | .evaluate .. => .testing
    | .resume .. => .reading := rfl
  have about := p.about i
  cases called : p.call i with
  | resume taskId workspaceId operator =>
    rw [called] at started about
    obtain ⟨sameTask, sameWorkspace⟩ := about
    subst sameTask sameWorkspace
    exact finishes_resumption called started
  | evaluate event simulate =>
    rw [called] at started
    rw [Request.answer, Request.perform, evaluateRuntimeEvent]
    by_cases known : store.isEventDuplicate event.eventId = true
    · rw [if_pos known]
      apply Finishes.of_step
      · rw [advance_evaluation called, advanceEvaluation, started]
        exact if_pos known
      · exact finishes_answered (move_phase _)
    rw [if_neg known]
    by_cases failing : simulate = true
    · rw [if_pos failing]
      apply Finishes.of_step
      · rw [advance_evaluation called, advanceEvaluation, started]
        exact (if_neg known).trans (if_pos failing)
      · exact finishes_unavailable called (move_phase _)
    rw [if_neg failing]
    apply Finishes.of_step
    · rw [advance_evaluation called, advanceEvaluation, started]
      exact (if_neg known).trans (if_neg failing)
    apply Finishes.of_step
    · rw [advance_evaluation called, advanceEvaluation, move_phase]
    · exact finishes_reading called (move_phase _)

end Session

end BurnLens.Guardrails
