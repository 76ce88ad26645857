import BurnLens.Guardrails.TaskState
import Mathlib.Algebra.BigOperators.Group.List.Basic
import Mathlib.Data.List.Nodup

/-! # Accounts of the tasks

The stored totals of every task of every workspace against a log of what they should rest
on: the events that reached the detector, and the resumptions.
-/

namespace BurnLens.Guardrails

open Library hiding lower

inductive Happening where
  | counted (event : RuntimeTelemetryEvent)
  | resumed (taskId workspaceId : Str)

def Happening.event : Happening → Option RuntimeTelemetryEvent
  | counted event => some event
  | resumed .. => none

def Happening.isResumption (taskId workspaceId : Str) : Happening → Bool
  | counted _ => false
  | resumed taskId' workspaceId' => taskId' = taskId ∧ workspaceId' = workspaceId

structure Audited where
  store : Store
  log : List Happening

def Store.happening (s : Store) : Request → Option Happening
  | .evaluate event simulate =>
    if simulate = false ∧ s.reachesDetector event then some (.counted event) else none
  | .resume taskId workspaceId _ =>
    if s.state taskId workspaceId = .paused then some (.resumed taskId workspaceId) else none

def audit (lower : Str → Str) : Machine Audited Request where
  step a request :=
    some ⟨request.perform lower a.store, a.log ++ (a.store.happening request).toList⟩

/-! ## The sums -/

def countedEvents (log : List Happening) : List RuntimeTelemetryEvent :=
  log.filterMap Happening.event

def eventsOf (taskId workspaceId : Str) (log : List Happening) : List RuntimeTelemetryEvent :=
  (countedEvents log).filter fun event =>
    event.taskId = taskId ∧ event.workspaceId = workspaceId

def totalCost (taskId workspaceId : Str) (log : List Happening) : Usd :=
  ((eventsOf taskId workspaceId log).map RuntimeTelemetryEvent.costUsd).sum

/-- The retries among the events of a task since it was last resumed. -/
def retriesSinceResume (taskId workspaceId : Str) (log : List Happening) : Nat :=
  (eventsOf taskId workspaceId
    (log.rtakeWhile fun happening => !happening.isResumption taskId workspaceId)).countP
      RuntimeTelemetryEvent.isRetry

/-- The totals are the sums over the events of the task. -/
structure Tallied (taskId workspaceId : Str) (log : List Happening) (metrics : TaskMetrics) :
    Prop where
  cost : metrics.totalCostUsd = totalCost taskId workspaceId log
  retries : metrics.retryCount = retriesSinceResume taskId workspaceId log
  requests : metrics.requestCount = (eventsOf taskId workspaceId log).length

structure Accounted (a : Audited) : Prop where
  tallied : ∀ taskId workspaceId,
    Tallied taskId workspaceId a.log (a.store.metrics taskId workspaceId)
  distinct : ((countedEvents a.log).map RuntimeTelemetryEvent.eventId).Nodup

variable (lower : Str → Str)

/-- The event reaches the detector with a permitted action and takes the cost of its task
    over the hard budget. -/
def Crosses (a : Audited) (event : RuntimeTelemetryEvent) : Prop :=
  a.store.reachesDetector event ∧ ¬ Forbidden lower a.store event ∧
    (getOrCreateDefaultPolicy a.store event.workspaceId).1.hardBudgetUsd <
      totalCost event.taskId event.workspaceId a.log + event.costUsd

def StopsAtBudget (a : Audited) (request : Request) : Prop :=
  ∀ event, request = .evaluate event false → Crosses lower a event →
    (evaluateRuntimeEvent lower a.store event false).1.decision = .stop ∧
      (request.perform lower a.store).state event.taskId event.workspaceId = .stopped

/-- The call leaves the accounts right, and stops a task whose budget it exhausts. -/
def KeepsAccounts (a : Audited) (request : Request) : Prop :=
  (∀ a', (audit lower).step a request = some a' → Accounted a') ∧ StopsAtBudget lower a request

/-- A new event finds no row of another workspace under the id of its task. -/
def OwnTask (a : Audited) : Request → Prop
  | .evaluate event false => a.store.isEventDuplicate event.eventId = true ∨
      a.store.ownable event.taskId event.workspaceId = true
  | _ => True

instance (a : Audited) : (request : Request) → Decidable (OwnTask a request)
  | .evaluate _ false => inferInstanceAs (Decidable (_ = _ ∨ _ = _))
  | .evaluate _ true => isTrue trivial
  | .resume .. => isTrue trivial

variable {lower} {taskId workspaceId : Str} {log : List Happening} {event : RuntimeTelemetryEvent}

theorem eventsOf_counted :
    eventsOf taskId workspaceId (log ++ [Happening.counted event]) =
      if taskId = event.taskId ∧ workspaceId = event.workspaceId then
        eventsOf taskId workspaceId log ++ [event]
      else eventsOf taskId workspaceId log := by
  simp only [eventsOf, countedEvents, List.filterMap_append, List.filter_append]
  split
  · next same => simp [Happening.event, same]
  · next apart =>
    have other : ¬ (event.taskId = taskId ∧ event.workspaceId = workspaceId) :=
      fun same => apart ⟨same.1.symm, same.2.symm⟩
    simp [Happening.event, other]

theorem eventsOf_resumed (taskId' workspaceId' : Str) :
    eventsOf taskId workspaceId (log ++ [Happening.resumed taskId' workspaceId']) =
      eventsOf taskId workspaceId log := by
  simp [eventsOf, countedEvents, Happening.event]

theorem retriesSinceResume_counted :
    retriesSinceResume taskId workspaceId (log ++ [Happening.counted event]) =
      if taskId = event.taskId ∧ workspaceId = event.workspaceId then
        retriesSinceResume taskId workspaceId log + if event.isRetry then 1 else 0
      else retriesSinceResume taskId workspaceId log := by
  simp only [retriesSinceResume]
  rw [List.rtakeWhile_concat_pos _ _ _ rfl, eventsOf_counted]
  split
  · rw [List.countP_append, List.countP_singleton]
  · rfl

theorem retriesSinceResume_resumed (taskId' workspaceId' : Str) :
    retriesSinceResume taskId workspaceId (log ++ [Happening.resumed taskId' workspaceId']) =
      if taskId = taskId' ∧ workspaceId = workspaceId' then 0
      else retriesSinceResume taskId workspaceId log := by
  simp only [retriesSinceResume]
  split
  · next same =>
    rw [List.rtakeWhile_concat_neg _ _ _ (by simp [Happening.isResumption, same])]
    rfl
  · next apart =>
    have other : ¬ (taskId' = taskId ∧ workspaceId' = workspaceId) :=
      fun same => apart ⟨same.1.symm, same.2.symm⟩
    rw [List.rtakeWhile_concat_pos _ _ _ (by simp [Happening.isResumption, other]),
      eventsOf_resumed]

variable {metrics : TaskMetrics}

theorem Tallied.counted (tallied : Tallied taskId workspaceId log metrics)
    (same : taskId = event.taskId ∧ workspaceId = event.workspaceId) (resetToolErrors : Bool) :
    Tallied taskId workspaceId (log ++ [Happening.counted event]) (metrics.count event resetToolErrors) where
  cost := by
    rw [totalCost, eventsOf_counted, if_pos same, List.map_append, List.sum_append,
      ← totalCost, ← tallied.cost]
    simp [TaskMetrics.count, TaskMetrics.after]
  retries := by
    rw [retriesSinceResume_counted, if_pos same, ← tallied.retries]
    rfl
  requests := by
    rw [eventsOf_counted, if_pos same, List.length_append, ← tallied.requests]
    rfl

theorem Tallied.counted_other (tallied : Tallied taskId workspaceId log metrics)
    (apart : ¬ (taskId = event.taskId ∧ workspaceId = event.workspaceId)) :
    Tallied taskId workspaceId (log ++ [Happening.counted event]) metrics where
  cost := by rw [totalCost, eventsOf_counted, if_neg apart]; exact tallied.cost
  retries := by rw [retriesSinceResume_counted, if_neg apart]; exact tallied.retries
  requests := by rw [eventsOf_counted, if_neg apart]; exact tallied.requests

theorem Tallied.resumed (tallied : Tallied taskId workspaceId log metrics) :
    Tallied taskId workspaceId (log ++ [Happening.resumed taskId workspaceId]) metrics.resume where
  cost := by rw [totalCost, eventsOf_resumed]; exact tallied.cost
  retries := by rw [retriesSinceResume_resumed, if_pos ⟨rfl, rfl⟩]; rfl
  requests := by rw [eventsOf_resumed]; exact tallied.requests

theorem Tallied.resumed_other {taskId' workspaceId' : Str}
    (tallied : Tallied taskId workspaceId log metrics)
    (apart : ¬ (taskId = taskId' ∧ workspaceId = workspaceId')) :
    Tallied taskId workspaceId (log ++ [Happening.resumed taskId' workspaceId']) metrics where
  cost := by rw [totalCost, eventsOf_resumed]; exact tallied.cost
  retries := by rw [retriesSinceResume_resumed, if_neg apart]; exact tallied.retries
  requests := by rw [eventsOf_resumed]; exact tallied.requests

/-! ## One call -/

/-- The accounts are right, and what they count will not be counted again. -/
structure Sound (a : Audited) : Prop extends Accounted a where
  ingested : ∀ event ∈ countedEvents a.log, a.store.isEventDuplicate event.eventId = true

theorem countedEvents_counted :
    countedEvents (log ++ [Happening.counted event]) = countedEvents log ++ [event] := by
  simp [countedEvents, Happening.event]

theorem countedEvents_resumed :
    countedEvents (log ++ [Happening.resumed taskId workspaceId]) = countedEvents log := by
  simp [countedEvents, Happening.event]

theorem isEventDuplicate_evaluateRuntimeEvent {s : Store} {simulate : Bool} {eventId : Str}
    (known : s.isEventDuplicate eventId = true) :
    (evaluateRuntimeEvent lower s event simulate).2.isEventDuplicate eventId = true := by
  rw [Store.isEventDuplicate, ingested_evaluateRuntimeEvent]
  split
  · rw [List.any_append, ← Store.isEventDuplicate, known, Bool.true_or]
  · exact known

variable {a : Audited}

theorem Sound.counted (sound : Sound a) (reached : a.store.reachesDetector event)
    (own : a.store.ownable event.taskId event.workspaceId = true) :
    Sound ⟨(evaluateRuntimeEvent lower a.store event false).2, a.log ++ [Happening.counted event]⟩ where
  tallied taskId workspaceId := by
    simp only [Store.metrics]
    rw [view_evaluateRuntimeEvent]
    split
    · next both =>
      obtain ⟨same, -⟩ := both
      obtain ⟨rfl, rfl⟩ := same
      exact (sound.tallied _ _).counted ⟨rfl, rfl⟩ _
    · next apart =>
      exact (sound.tallied _ _).counted_other fun same => apart ⟨same, rfl, reached, own⟩
  distinct := by
    simp only [countedEvents_counted, List.map_append]
    refine List.nodup_append.mpr ⟨sound.distinct, List.nodup_singleton _, ?_⟩
    rintro eventId counted other member rfl
    obtain ⟨earlier, member', rfl⟩ := List.mem_map.mp counted
    have known := sound.ingested earlier member'
    rw [List.mem_singleton.mp member, reached.1] at known
    cases known
  ingested other member := by
    simp only [countedEvents_counted, List.mem_append, List.mem_singleton] at member
    obtain earlier | rfl := member
    · exact isEventDuplicate_evaluateRuntimeEvent (sound.ingested other earlier)
    · rw [Store.isEventDuplicate, ingested_evaluateRuntimeEvent, if_pos ⟨reached.1, rfl⟩]
      simp [RuntimeTelemetryEvent.ingestion]

theorem Sound.uncounted {simulate : Bool} (sound : Sound a)
    (uncounted : ¬ (simulate = false ∧ a.store.reachesDetector event)) :
    Sound ⟨(evaluateRuntimeEvent lower a.store event simulate).2, a.log⟩ where
  tallied taskId workspaceId := by
    simp only [Store.metrics]
    rw [view_evaluateRuntimeEvent, if_neg fun both => uncounted ⟨both.2.1, both.2.2.1⟩]
    exact sound.tallied taskId workspaceId
  distinct := sound.distinct
  ingested other member := isEventDuplicate_evaluateRuntimeEvent (sound.ingested other member)

theorem Sound.resume (sound : Sound a) (taskId workspaceId operator : Str) :
    Sound ⟨(resumeTask a.store taskId workspaceId operator).2,
      a.log ++ (a.store.happening (.resume taskId workspaceId operator)).toList⟩ := by
  have known : ∀ eventId, (resumeTask a.store taskId workspaceId operator).2.isEventDuplicate
      eventId = a.store.isEventDuplicate eventId := by
    intro eventId
    rw [Store.isEventDuplicate, ingested_resumeTask]
    rfl
  rw [Store.happening]
  split
  · next paused =>
    refine ⟨⟨fun taskId' workspaceId' => ?_, ?_⟩, ?_⟩
    · simp only [Store.metrics, Option.toList_some]
      rw [resumeTask_view]
      split
      · next both =>
        obtain ⟨⟨rfl, rfl⟩, -⟩ := both
        exact (sound.tallied _ _).resumed
      · next apart =>
        exact (sound.tallied _ _).resumed_other fun same => apart ⟨same, paused⟩
    · simp only [Option.toList_some, countedEvents_resumed]
      exact sound.distinct
    · simp only [Option.toList_some, countedEvents_resumed, known]
      exact sound.ingested
  · next running =>
    simp only [Option.toList_none, List.append_nil]
    refine ⟨⟨fun taskId' workspaceId' => ?_, sound.distinct⟩, ?_⟩
    · simp only [Store.metrics]
      rw [resumeTask_view, if_neg fun both => running both.2]
      exact sound.tallied taskId' workspaceId'
    · simp only [known]
      exact sound.ingested

theorem Sound.step {a' : Audited} {request : Request} (sound : Sound a)
    (own : OwnTask a request) (stepped : (audit lower).step a request = some a') : Sound a' := by
  cases stepped
  cases request with
  | resume taskId workspaceId operator => exact sound.resume taskId workspaceId operator
  | evaluate event simulate =>
    by_cases counted : simulate = false ∧ a.store.reachesDetector event
    · obtain ⟨rfl, reached⟩ := counted
      simp only [Store.happening, reached, and_self, if_true, Option.toList_some]
      obtain repeated | own := own
      · rw [reached.1] at repeated
        cases repeated
      · exact sound.counted reached own
    · simp only [Store.happening, if_neg counted, Option.toList_none, List.append_nil]
      exact sound.uncounted counted

theorem Accounted.stopsAtBudget {request : Request} (accounted : Accounted a)
    (own : OwnTask a request) : StopsAtBudget lower a request := by
  rintro event rfl ⟨reached, permitted, exceeded⟩
  have own : a.store.ownable event.taskId event.workspaceId = true := by
    obtain repeated | own := own
    · rw [reached.1] at repeated
      cases repeated
    · exact own
  have stops : (evaluateRuntimeEvent lower a.store event false).1.decision = .stop := by
    rw [evaluateRuntimeEvent_detect reached.1 reached.2.1 reached.2.2, detect_decision]
    have samePolicy := policy_eq_of_policies (policies_enroll a.store event)
      event.workspaceId
    apply evaluate_stop
    · rw [samePolicy]
      exact permitted
    · rw [samePolicy, enroll_metrics, (accounted.tallied _ _).cost]
      exact exceeded
  refine ⟨stops, ?_⟩
  rw [Request.perform, Store.state, view_evaluateRuntimeEvent, if_pos ⟨⟨rfl, rfl⟩, rfl, reached, own⟩,
    stops]
  rfl

/-- A new event whose task id belongs to another workspace is counted nowhere. -/
theorem Accounted.own_of_kept {request : Request} (accounted : Accounted a)
    (kept : KeepsAccounts lower a request) : OwnTask a request := by
  cases request with
  | resume taskId workspaceId operator => trivial
  | evaluate event simulate =>
    cases simulate with
    | true => trivial
    | false =>
      cases known : a.store.isEventDuplicate event.eventId with
      | true => exact Or.inl known
      | false =>
        refine Or.inr ?_
        by_contra foreign
        rw [Bool.not_eq_true] at foreign
        have absent := Store.view_of_not_ownable foreign
        have reached : a.store.reachesDetector event := by
          simp [Store.reachesDetector, known, Store.state, absent]
        have after := (kept.1 _ rfl).tallied event.taskId event.workspaceId |>.requests
        have before := (accounted.tallied event.taskId event.workspaceId).requests
        have unseen : (evaluateRuntimeEvent lower a.store event false).2.view event.taskId
            event.workspaceId = _ := view_evaluateRuntimeEvent event.taskId event.workspaceId
        simp only [Store.happening, reached, and_self, if_true, Option.toList_some,
          eventsOf_counted, List.length_append, List.length_singleton, Store.metrics,
          Request.perform, unseen, foreign, Bool.false_eq_true, and_false, if_false] at after
        rw [Store.metrics] at before
        omega

theorem keepsAccounts_iff {request : Request} (sound : Sound a) :
    KeepsAccounts lower a request ↔ OwnTask a request :=
  ⟨sound.toAccounted.own_of_kept, fun own =>
    ⟨fun _ stepped => (sound.step own stepped).toAccounted, sound.toAccounted.stopsAtBudget own⟩⟩

theorem sound_start (policies : List GuardrailPolicy) (ingested : List Ingestion)
    (decisions : List GuardrailDecision) :
    Sound ⟨⟨policies, fun _ => none, ingested, decisions⟩, []⟩ where
  tallied _ _ := ⟨rfl, rfl, rfl⟩
  distinct := List.nodup_nil
  ingested _ member := by cases member

/-- From an empty task table on, every call of a sequence leaves the totals of every task of
    every workspace equal to the sums over its events, and stops a task whose budget it
    exhausts, exactly where no new event bears a task id of another workspace. -/
theorem accounts_kept (lower : Str → Str) (policies : List GuardrailPolicy)
    (ingested : List Ingestion) (decisions : List GuardrailDecision) (requests : List Request) :
    (audit lower).Guarded (KeepsAccounts lower)
        ⟨⟨policies, fun _ => none, ingested, decisions⟩, []⟩ requests ↔
      (audit lower).Guarded OwnTask
        ⟨⟨policies, fun _ => none, ingested, decisions⟩, []⟩ requests := by
  apply (audit lower).guarded_iff Sound
  · exact fun _ _ sound => keepsAccounts_iff sound
  · exact fun _ _ _ sound own stepped => sound.step own stepped
  · exact sound_start policies ingested decisions

/-- One task id in two workspaces: the second one spends 30 of 25 dollars, twice. -/
def sharedTask : List Request :=
  let event (eventId workspaceId : Str) : RuntimeTelemetryEvent :=
    { eventId, workspaceId, agentId := "agent-1", taskId := "task-1", actionType := "llm_call"
      costUsd := 30 }
  [.evaluate (event "evt-1" "ws-1") false, .evaluate (event "evt-2" "ws-2") false,
    .evaluate (event "evt-3" "ws-2") false]

theorem shared_task_unaccounted :
    ¬ (audit Library.lower).Guarded (KeepsAccounts Library.lower)
      ⟨⟨[], fun _ => none, [], []⟩, []⟩ sharedTask := by
  rintro ⟨-, rest⟩
  have requests := ((((rest _ rfl).1).1 _ rfl).tallied "task-1" "ws-2").requests
  revert requests
  decide +kernel

end BurnLens.Guardrails
