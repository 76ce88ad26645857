import BurnLens.Guardrails.TaskState

/-! # The event after a resumption

A resumption clears the retries and the tool errors of its task, but not its requests: a task that
was paused as a runaway is paused again by its next event.
-/

namespace BurnLens.Guardrails

open Library hiding lower

def Request.concerns (taskId workspaceId : Str) : Request → Prop
  | .evaluate event _ => event.taskId = taskId ∧ event.workspaceId = workspaceId
  | .resume .. => False

/-- A new event that none of the rules but the one of the runaways has a reason to stop, under a
    policy whose limits are at least two. -/
structure Unobjectionable (lower : Str → Str) (s : Store) (event : RuntimeTelemetryEvent) :
    Prop where
  new : s.isEventDuplicate event.eventId = false
  noRetry : event.isRetry = false
  noToolError : event.isToolError = false
  permitted : ¬ Forbidden lower s event
  affordable : (s.metrics event.taskId event.workspaceId).totalCostUsd + event.costUsd ≤
    (getOrCreateDefaultPolicy s event.workspaceId).1.hardBudgetUsd
  maxRetries : 2 ≤ (getOrCreateDefaultPolicy s event.workspaceId).1.maxRetries
  maxToolErrors : 2 ≤ (getOrCreateDefaultPolicy s event.workspaceId).1.maxConsecutiveToolErrors
  maxRequests : 2 ≤ (getOrCreateDefaultPolicy s event.workspaceId).1.maxTaskRequests

variable {lower : Str → Str} {s s' : Store} {event : RuntimeTelemetryEvent}
  {taskId workspaceId : Str}

theorem detectReached_eq_none {count : Nat} {limit : Int} (under : (count : Int) < limit)
    (before between after : Str) : detectReached count limit before between after = none :=
  if_neg (not_le.mpr under)

/-- Of a task without retries and tool errors, only the count of requests is left to object. -/
theorem evaluate_allow_iff {metrics : TaskMetrics} {policy : GuardrailPolicy}
    (noRetry : event.isRetry = false) (noToolError : event.isToolError = false)
    (permitted : ¬ policy.forbids lower event.actionType)
    (affordable : metrics.totalCostUsd + event.costUsd ≤ policy.hardBudgetUsd)
    (retries : (metrics.retryCount : Int) < policy.maxRetries)
    (toolErrors : (metrics.consecutiveToolErrors : Int) < policy.maxConsecutiveToolErrors) :
    (evaluate lower event metrics policy).decision = .allow ↔
      (metrics.requestCount : Int) + 1 < policy.maxTaskRequests := by
  have cost : detectHardBudgetExceeded (metrics.after event).totalCostUsd policy.hardBudgetUsd =
      none := if_neg (not_lt.mpr affordable)
  have retryStorm : detectRetryStorm (metrics.after event).retryCount policy.maxRetries = none := by
    refine detectReached_eq_none ?_ _ _ _
    rw [TaskMetrics.after, noRetry]
    exact retries
  have toolError : detectRepeatedToolErrors (metrics.after event).consecutiveToolErrors
      policy.maxConsecutiveToolErrors = none := by
    refine detectReached_eq_none ?_ _ _ _
    rw [TaskMetrics.after, noToolError]
    exact toolErrors
  have count : ((metrics.after event).requestCount : Int) = metrics.requestCount + 1 := rfl
  simp only [evaluate, findings, detectForbiddenAction_eq_none permitted, cost, retryStorm,
    toolError, firstFinding, detectRunawayTask, detectReached, count]
  by_cases runaway : policy.maxTaskRequests ≤ (metrics.requestCount : Int) + 1
  · rw [if_pos runaway]
    exact ⟨fun never => (by cases never), fun room => absurd room (not_lt.mpr runaway)⟩
  · rw [if_neg runaway]
    exact iff_of_true rfl (not_le.mp runaway)

/-- No other request changes what the tables say of a task that is not paused. -/
theorem view_perform_of_apart {request : Request} (active : s.state taskId workspaceId = .active)
    (apart : ¬ request.concerns taskId workspaceId) :
    (request.perform lower s).view taskId workspaceId = s.view taskId workspaceId := by
  cases request with
  | evaluate other simulate =>
    rw [Request.perform, view_evaluateRuntimeEvent, if_neg]
    rintro ⟨⟨rfl, rfl⟩, -⟩
    exact apart ⟨rfl, rfl⟩
  | resume taskId' workspaceId' operator =>
    rw [Request.perform, resumeTask_view, if_neg]
    rintro ⟨⟨rfl, rfl⟩, paused⟩
    rw [active] at paused
    cases paused

theorem view_run_of_apart {others : List Request} (active : s.state taskId workspaceId = .active)
    (apart : ∀ request ∈ others, ¬ request.concerns taskId workspaceId)
    (ran : (engine lower).run s others = some s') :
    s'.view taskId workspaceId = s.view taskId workspaceId := by
  induction others generalizing s with
  | nil =>
    cases ran
    rfl
  | cons request others inductionHypothesis =>
    obtain ⟨between, stepped, ran⟩ := (engine lower).run_cons_some ran
    cases stepped
    have kept : (request.perform lower s).view taskId workspaceId = s.view taskId workspaceId :=
      view_perform_of_apart active (apart request (.head _))
    have rest := inductionHypothesis ((congrArg Prod.fst kept).trans active)
      (fun request here => apart request (.tail _ here)) ran
    exact rest.trans kept

/-- Events that reach the detector are answered by it, and allowed ones leave an active task. -/
theorem allowed_active_iff (new : s.isEventDuplicate event.eventId = false)
    (active : s.state event.taskId event.workspaceId = .active) :
    ((evaluateRuntimeEvent lower s event false).1.decision = .allow ∧
        (evaluateRuntimeEvent lower s event false).2.state event.taskId event.workspaceId = .active) ↔
      (evaluate lower event (s.metrics event.taskId event.workspaceId)
        (getOrCreateDefaultPolicy s event.workspaceId).1).decision = .allow := by
  have decided : (evaluateRuntimeEvent lower s event false).1 =
      evaluate lower event (s.metrics event.taskId event.workspaceId)
        (getOrCreateDefaultPolicy s event.workspaceId).1 := by
    rw [evaluateRuntimeEvent_detect new (by rw [active]; decide) (by rw [active]; decide),
      detect_decision, enroll_metrics, policy_eq_of_policies (policies_enroll s event)]
  rw [decided]
  refine and_iff_left_of_imp fun allowed => ?_
  rw [Store.state, view_evaluateRuntimeEvent, decided, allowed]
  split
  · exact active
  · exact active

/-- After a resumption, and whatever happens to the other tasks, the next event of the task is
    allowed and leaves it active if and only if the requests of the task are still below the limit
    with it. -/
theorem resumption_effective_iff (lower : Str → Str) (s s' : Store)
    (taskId workspaceId operator : Str) (others : List Request) (event : RuntimeTelemetryEvent)
    (paused : s.state taskId workspaceId = .paused)
    (apart : ∀ request ∈ others, ¬ request.concerns taskId workspaceId)
    (ran : (engine lower).run s (.resume taskId workspaceId operator :: others) = some s')
    (concerns : event.taskId = taskId ∧ event.workspaceId = workspaceId)
    (unobjectionable : Unobjectionable lower s' event) :
    ((evaluateRuntimeEvent lower s' event false).1.decision = .allow ∧
        (evaluateRuntimeEvent lower s' event false).2.state taskId workspaceId = .active) ↔
      ((s.metrics taskId workspaceId).requestCount : Int) + 1 <
        (getOrCreateDefaultPolicy s' workspaceId).1.maxTaskRequests := by
  obtain ⟨rfl, rfl⟩ := concerns
  obtain ⟨resumed, stepped, ran⟩ := (engine lower).run_cons_some ran
  cases stepped
  have view := resumeTask_view event.taskId event.workspaceId operator event.taskId event.workspaceId
    (s := s)
  rw [if_pos ⟨⟨rfl, rfl⟩, paused⟩] at view
  have kept := (view_run_of_apart (congrArg Prod.fst view) apart ran).trans view
  have metrics : s'.metrics event.taskId event.workspaceId =
      (s.metrics event.taskId event.workspaceId).resume := congrArg Prod.snd kept
  rw [allowed_active_iff unobjectionable.new (congrArg Prod.fst kept),
    evaluate_allow_iff unobjectionable.noRetry unobjectionable.noToolError
      unobjectionable.permitted unobjectionable.affordable, metrics]
  · rfl
  · rw [metrics]
    exact lt_of_lt_of_le (by decide : ((0 : Nat) : Int) < 2) unobjectionable.maxRetries
  · rw [metrics]
    exact lt_of_lt_of_le (by decide : ((0 : Nat) : Int) < 2) unobjectionable.maxToolErrors

def callOf (eventId : Str) (isRetry : Bool := false) : RuntimeTelemetryEvent where
  eventId := eventId
  workspaceId := "ws-1"
  agentId := "agent-1"
  taskId := "task-1"
  actionType := "llm_call"
  isRetry := isRetry

def limitedTo (maxRetries maxTaskRequests : Int) : Store :=
  ⟨[{ policyId := "pol-1", workspaceId := "ws-1", maxRetries, maxTaskRequests }], fun _ => none, [], []⟩

/-- Paused as a runaway by its second event, and paused again by the first after the resumption. -/
theorem runaway_paused_again :
    ((engine Library.lower).run (limitedTo 3 2) [.evaluate (callOf "evt-1") false,
        .evaluate (callOf "evt-2") false]).map (·.state "task-1" "ws-1") = some .paused ∧
      ((engine Library.lower).run (limitedTo 3 2) [.evaluate (callOf "evt-1") false,
        .evaluate (callOf "evt-2") false, .resume "task-1" "ws-1" "op"]).map
          (fun s => (s.state "task-1" "ws-1",
            (evaluateRuntimeEvent Library.lower s (callOf "evt-3") false).1.decision)) =
        some (.active, .pause) := by
  decide +kernel

/-- The store after two retries, the second of which has paused the task. -/
def afterRetries : Store :=
  (Request.evaluate (callOf "evt-2" true) false).perform Library.lower
    ((Request.evaluate (callOf "evt-1" true) false).perform Library.lower (limitedTo 2 50))

def afterResumption : Store := (Request.resume "task-1" "ws-1" "op").perform Library.lower afterRetries

theorem retry_storm_resumed :
    (evaluateRuntimeEvent Library.lower afterResumption (callOf "evt-3") false).1.decision = .allow ∧
      (evaluateRuntimeEvent Library.lower afterResumption (callOf "evt-3") false).2.state
        "task-1" "ws-1" = .active := by
  have unobjectionable : Unobjectionable Library.lower afterResumption (callOf "evt-3") := by
    constructor <;> decide +kernel
  exact (resumption_effective_iff Library.lower afterRetries afterResumption "task-1" "ws-1" "op" []
    (callOf "evt-3") (by decide +kernel) (List.forall_mem_nil _) rfl ⟨rfl, rfl⟩
    unobjectionable).mpr (by decide +kernel)

end BurnLens.Guardrails
