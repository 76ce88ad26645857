import BurnLens.Guardrails.Engine

/-! # Decisions and the state of a task

What a decision owes to the stored state of its task and to the list of forbidden actions,
over sequences of calls to the engine.
-/

namespace BurnLens.Guardrails

open Library hiding lower

variable (lower : Str → Str)

/-- What the list of forbidden actions of the workspace says of the event. -/
def Forbidden (s : Store) (event : RuntimeTelemetryEvent) : Prop :=
  (getOrCreateDefaultPolicy s event.workspaceId).1.forbids lower event.actionType

instance (s : Store) (event : RuntimeTelemetryEvent) : Decidable (Forbidden lower s event) :=
  inferInstanceAs (Decidable (GuardrailPolicy.forbids ..))

/-- The request ends the pause of the task. -/
def Request.ends (taskId workspaceId : Str) : Request → Prop
  | .evaluate .. => False
  | .resume taskId' workspaceId' _ => taskId' = taskId ∧ workspaceId' = workspaceId

/-- The answer to an event of an available control plane respects the stored state of its
    task and the list of forbidden actions; and nothing but a resumption ends a pause. -/
def Respected (s : Store) (request : Request) : Prop :=
  (∀ event, request = .evaluate event false →
    let decision := (evaluateRuntimeEvent lower s event false).1.decision
    (s.state event.taskId event.workspaceId = .stopped → decision = .stop) ∧
    (s.state event.taskId event.workspaceId = .paused → decision = .pause) ∧
    (Forbidden lower s event → decision ≠ .allow)) ∧
  ∀ taskId workspaceId, s.state taskId workspaceId = .paused →
    ¬ request.ends taskId workspaceId →
    (request.perform lower s).state taskId workspaceId = .paused

/-- An event whose id has been seen before is one of a task that is neither stopped nor
    paused, and its action is permitted. -/
def Answerable (s : Store) : Request → Prop
  | .evaluate event false => s.isEventDuplicate event.eventId = true →
      s.state event.taskId event.workspaceId ≠ .stopped ∧
      s.state event.taskId event.workspaceId ≠ .paused ∧ ¬ Forbidden lower s event
  | _ => True

instance (s : Store) : (request : Request) → Decidable (Answerable lower s request)
  | .evaluate event false => inferInstanceAs
      (Decidable (s.isEventDuplicate event.eventId = true → _ ≠ _ ∧ _ ≠ _ ∧ ¬ Forbidden ..))
  | .evaluate _ true => isTrue trivial
  | .resume .. => isTrue trivial

variable {lower} {s : Store} {event : RuntimeTelemetryEvent}

/-- Every answer but the one to a repeated event respects the state and the list. -/
theorem answer_of_fresh (fresh : s.isEventDuplicate event.eventId = false) :
    let decision := (evaluateRuntimeEvent lower s event false).1.decision
    (s.state event.taskId event.workspaceId = .stopped → decision = .stop) ∧
    (s.state event.taskId event.workspaceId = .paused → decision = .pause) ∧
    (Forbidden lower s event → decision ≠ .allow) := by
  by_cases stopped : s.state event.taskId event.workspaceId = .stopped
  · simp [evaluateRuntimeEvent_stopped fresh stopped, stopped, stoppedAnswer,
      RuntimeTelemetryEvent.answer]
  by_cases paused : s.state event.taskId event.workspaceId = .paused
  · simp [evaluateRuntimeEvent_paused fresh paused, paused, pausedAnswer,
      RuntimeTelemetryEvent.answer]
  rw [evaluateRuntimeEvent_detect fresh stopped paused]
  refine ⟨fun same => absurd same stopped, fun same => absurd same paused, fun forbidden => ?_⟩
  rw [Forbidden, policy_eq_of_policies (policies_enroll s event).symm] at forbidden
  rw [detect_decision, evaluate_deny forbidden]
  intro same
  cases same

theorem paused_of_not_ends {request : Request} {taskId workspaceId : Str}
    (paused : s.state taskId workspaceId = .paused)
    (continues : ¬ request.ends taskId workspaceId) :
    (request.perform lower s).state taskId workspaceId = .paused := by
  cases request with
  | evaluate event simulate =>
    rw [Request.perform, Store.state, view_evaluateRuntimeEvent, if_neg]
    · exact paused
    · rintro ⟨⟨rfl, rfl⟩, -, ⟨-, -, moving⟩, -⟩
      exact moving paused
  | resume taskId' workspaceId' operator =>
    rw [Request.perform, Store.state, resumeTask_view, if_neg]
    · exact paused
    · rintro ⟨⟨rfl, rfl⟩, -⟩
      exact continues ⟨rfl, rfl⟩

theorem respected_iff (request : Request) :
    Respected lower s request ↔ Answerable lower s request := by
  have kept : ∀ taskId workspaceId, s.state taskId workspaceId = .paused →
      ¬ request.ends taskId workspaceId →
      (request.perform lower s).state taskId workspaceId = .paused :=
    fun _ _ paused continues => paused_of_not_ends paused continues
  cases request with
  | resume taskId workspaceId operator =>
    exact iff_of_true ⟨fun event other => Request.noConfusion other, kept⟩ trivial
  | evaluate event simulate =>
    cases simulate with
    | true =>
      refine iff_of_true ⟨fun other same => ?_, kept⟩ trivial
      cases same
    | false =>
      cases known : s.isEventDuplicate event.eventId with
      | false =>
        refine iff_of_true ⟨fun other same => ?_, kept⟩ fun seen => ?_
        · cases same
          exact answer_of_fresh known
        · rw [known] at seen
          cases seen
      | true =>
        -- a repeated event is allowed, whatever its task and its action are
        have allowed : (evaluateRuntimeEvent lower s event false).1.decision = .allow := by
          rw [evaluateRuntimeEvent_duplicate known]
          rfl
        simp only [Respected, Answerable]
        constructor
        · intro respected _
          have owes := respected.1 event rfl
          simp only [allowed] at owes
          simpa using owes
        · intro permitted
          refine ⟨fun other same => ?_, kept⟩
          cases same
          obtain ⟨notStopped, notPaused, notForbidden⟩ := permitted known
          exact ⟨fun same => absurd same notStopped, fun same => absurd same notPaused,
            fun forbidden => absurd forbidden notForbidden⟩

/-- The engine respects the tasks in every call of a sequence exactly where no event that has
    been seen before is put to it for a stopped or paused task or for a forbidden action. -/
theorem decisions_respect_tasks (lower : Str → Str) (s : Store) (requests : List Request) :
    (engine lower).Guarded (Respected lower) s requests ↔
      (engine lower).Guarded (Answerable lower) s requests := by
  apply (engine lower).guarded_iff fun _ => True
  · exact fun s request _ => respected_iff request
  · exact fun s request s' _ _ _ => trivial
  · trivial

/-- An event that exhausts the budget of its task, sent twice. -/
def repeatedEvent : RuntimeTelemetryEvent where
  eventId := "evt-1"
  workspaceId := "ws-1"
  agentId := "agent-1"
  taskId := "task-1"
  actionType := "llm_call"
  costUsd := 30

theorem repeated_event_allowed_of_stopped_task :
    ¬ (engine Library.lower).Guarded (Respected Library.lower) ⟨[], fun _ => none, [], []⟩
      [.evaluate repeatedEvent false, .evaluate repeatedEvent false] := by
  rintro ⟨-, rest⟩
  have owes := ((rest _ rfl).1.1 repeatedEvent rfl).1 (by decide +kernel)
  have answered : (evaluateRuntimeEvent Library.lower
      ((Request.evaluate repeatedEvent false).perform Library.lower ⟨[], fun _ => none, [], []⟩)
      repeatedEvent false).1.decision = .allow := by decide +kernel
  rw [answered] at owes
  cases owes

end BurnLens.Guardrails
