import BurnLens.Guardrails.Interleaving
import Mathlib.Algebra.BigOperators.Group.List.Basic
import Mathlib.Data.Fintype.Basic

/-! # Late writes and repeated events

What concurrent calls on one task keep: a stopped task stays stopped, and an event counts once,
as long as no call overtakes another one between its read and its write.
-/

namespace BurnLens.Guardrails

open Library hiding lower

variable {Caller : Type*} [DecidableEq Caller]

namespace Session

variable (p : Session Caller)

def policy (s : State Caller) : GuardrailPolicy :=
  (getOrCreateDefaultPolicy s.store p.workspaceId).1

def pauses (policy : GuardrailPolicy) (event : RuntimeTelemetryEvent) (metrics : TaskMetrics) :
    Bool :=
  (evaluate p.lower event metrics policy).decision = .pause

/-- Under this policy a call in this phase will set the task to PAUSED or ACTIVE, whatever
    state it is in by then. -/
def overwritesAt (policy : GuardrailPolicy) : Request → Phase → Bool
  | .evaluate event _, .creating => p.pauses policy event {}
  | .evaluate event _, .configuring (some metrics) => p.pauses policy event metrics
  | .evaluate event _, .installing (some metrics) => p.pauses policy event metrics
  | _, .enforcing decision => decision.decision = .pause
  | _, .resuming => true
  | _, _ => false

def overwrites (s : State Caller) (i : Caller) : Bool :=
  p.overwritesAt (p.policy s) (p.call i) (s.phase i)

/-- The call is about to set the task to STOPPED. -/
def stops (s : State Caller) (i : Caller) : Bool :=
  match s.phase i with
  | .enforcing decision => decision.decision = .stop ∧ s.store.owned p.taskId p.workspaceId
  | _ => false

/-- The id that the duplicate test of the call is about to find new. -/
def admits (s : State Caller) (i : Caller) : Option Str :=
  match p.call i, s.phase i with
  | .evaluate event false, .testing =>
    if s.store.isEventDuplicate event.eventId then none else some event.eventId
  | _, _ => none

/-- The id that the call has found new and not recorded yet. -/
def tested (s : State Caller) (i : Caller) : Option Str :=
  match p.call i, s.phase i with
  | .evaluate event _, .ingesting => some event.eventId
  | _, _ => none

/-- No call sets the task to STOPPED while another one, having read its state, has yet to set
    it to PAUSED or ACTIVE; and no call finds an id new that another one has found new and not
    recorded. -/
def Apart (s : State Caller) (i : Caller) : Prop :=
  (p.stops s i = true → ∀ j, p.overwrites s j = false) ∧
    (p.admits s i ≠ none → ∀ j, p.tested s j ≠ p.admits s i)

instance [Fintype Caller] (s : State Caller) (i : Caller) : Decidable (p.Apart s i) :=
  inferInstanceAs (Decidable ((_ → _) ∧ (_ → _)))

/-- Every event was added to the totals at most once, and they grew by nothing else. -/
structure CountedOnce (store : Store) (s : State Caller) : Prop where
  distinct : (s.contributed.map RuntimeTelemetryEvent.eventId).Nodup
  cost : (s.store.metrics p.taskId p.workspaceId).totalCostUsd =
    (store.metrics p.taskId p.workspaceId).totalCostUsd +
      (s.contributed.map RuntimeTelemetryEvent.costUsd).sum
  requests : (s.store.metrics p.taskId p.workspaceId).requestCount =
    (store.metrics p.taskId p.workspaceId).requestCount + s.contributed.length

/-- The statement leaves a stopped task stopped, and every event counted at most once. -/
def Kept (store : Store) (s : State Caller) (i : Caller) : Prop :=
  ∀ s', p.machine.step s i = some s' →
    (s.store.state p.taskId p.workspaceId = .stopped →
      s'.store.state p.taskId p.workspaceId = .stopped) ∧
    p.CountedOnce store s'

/-! ## The invariant -/

/-- The event that the call has found new and not added to the totals yet. -/
def uncountedAt : Request → Phase → Option RuntimeTelemetryEvent
  | .evaluate event _, .ingesting | .evaluate event _, .reading | .evaluate event _, .creating
  | .evaluate event _, .configuring (some _) | .evaluate event _, .installing (some _)
  | .evaluate event _, .enforcing _ | .evaluate event _, .counting _ => some event
  | _, _ => none

def uncounted (s : State Caller) (i : Caller) : Option RuntimeTelemetryEvent :=
  uncountedAt (p.call i) (s.phase i)

/-- The workspace has no active policy, or the default one that some call has installed. -/
def OnlyDefault (store : Store) : Prop :=
  store.activePolicies p.workspaceId = [] ∨
    store.activePolicies p.workspaceId = [defaultPolicy p.workspaceId]

structure Invariant (store : Store) (s : State Caller) : Prop extends
    p.CountedOnce store s where
  onlyDefault : ∀ i metrics, s.phase i = .installing metrics → p.OnlyDefault s.store
  finished : s.store.state p.taskId p.workspaceId = .stopped → ∀ i, p.overwrites s i = false
  unique : ∀ i j event other, p.uncounted s i = some event → p.uncounted s j = some other →
    event.eventId = other.eventId → i = j
  recorded : ∀ i event, p.uncounted s i = some event → s.phase i = .ingesting ∨
    s.store.isEventDuplicate event.eventId = true
  counted : ∀ event ∈ s.contributed, s.store.isEventDuplicate event.eventId = true ∧
    ∀ i other, p.uncounted s i = some other → other.eventId ≠ event.eventId

/-- What a statement may do that neither finds an event new nor counts one. -/
structure Harmless (s : State Caller) (i : Caller) (store : Store) (next : Phase) : Prop where
  policy : (getOrCreateDefaultPolicy store p.workspaceId).1 = p.policy s
  onlyDefault : ∀ j metrics, s.phase j = .installing metrics ∨ next = .installing metrics →
    p.OnlyDefault store
  finished : store.state p.taskId p.workspaceId = .stopped →
    (∀ j, j ≠ i → p.overwrites s j = false) ∧
      p.overwritesAt (p.policy s) (p.call i) next = false
  cost : (store.metrics p.taskId p.workspaceId).totalCostUsd =
    (s.store.metrics p.taskId p.workspaceId).totalCostUsd
  requests : (store.metrics p.taskId p.workspaceId).requestCount =
    (s.store.metrics p.taskId p.workspaceId).requestCount
  ingested : ∀ eventId, s.store.isEventDuplicate eventId = true →
    store.isEventDuplicate eventId = true
  uncounted : ∀ event, uncountedAt (p.call i) next = some event →
    p.uncounted s i = some event ∧ store.isEventDuplicate event.eventId = true

variable {p} {s s' : State Caller} {i : Caller} {store₀ store : Store} {next : Phase}
  {event : RuntimeTelemetryEvent} {simulate : Bool}

omit [DecidableEq Caller] in
theorem uncounted_of_phase {s s' : State Caller} {j : Caller} (same : s'.phase j = s.phase j) :
    p.uncounted s' j = p.uncounted s j := by
  rw [uncounted, same, uncounted]

theorem Invariant.move (invariant : p.Invariant store₀ s) (harmless : p.Harmless s i store next) :
    p.Invariant store₀ ({ s with store }.move i next) := by
  have before : ∀ j event, p.uncounted ({ s with store }.move i next) j = some event →
      p.uncounted s j = some event ∧
        (({ s with store }.move i next).phase j = .ingesting ∨
          store.isEventDuplicate event.eventId = true) := by
    intro j event after
    by_cases same : j = i
    · subst same
      obtain ⟨held, known⟩ := harmless.uncounted event (by simpa [uncounted, State.move] using after)
      exact ⟨held, Or.inr known⟩
    · have unmoved : ({ s with store }.move i next).phase j = s.phase j := by
        simp [State.move, same]
      rw [uncounted_of_phase unmoved] at after
      rw [unmoved]
      exact ⟨after, (invariant.recorded j event after).imp id (harmless.ingested _)⟩
  refine ⟨⟨invariant.distinct, harmless.cost.trans invariant.cost,
    harmless.requests.trans invariant.requests⟩, ?_, ?_, ?_, ?_, ?_⟩
  · intro j metrics installing
    by_cases same : j = i
    · subst same
      exact harmless.onlyDefault j metrics (Or.inr (by simpa [State.move] using installing))
    · exact harmless.onlyDefault j metrics (Or.inl (by simpa [State.move, same] using installing))
  · intro stopped j
    obtain ⟨others, this⟩ := harmless.finished stopped
    have samePolicy : p.policy ({ s with store }.move i next) = p.policy s := harmless.policy
    rw [overwrites, samePolicy]
    by_cases same : j = i
    · subst same
      simpa [State.move] using this
    · simpa [State.move, same, overwrites] using others j same
  · intro j k event other first second
    exact invariant.unique j k event other (before j event first).1 (before k other second).1
  · exact fun j event after => (before j event after).2
  · intro event member
    obtain ⟨known, apart⟩ := invariant.counted event member
    exact ⟨harmless.ingested _ known, fun j other after => apart j other (before j other after).1⟩

theorem Invariant.quiet (invariant : p.Invariant store₀ s)
    (policies : store.policies = s.store.policies) (view : store.view = s.store.view)
    (ingested : ∀ eventId, s.store.isEventDuplicate eventId = true →
      store.isEventDuplicate eventId = true)
    (onlyDefault : ∀ metrics, next = .installing metrics → p.OnlyDefault s.store)
    (finished : s.store.state p.taskId p.workspaceId = .stopped →
      p.overwritesAt (p.policy s) (p.call i) next = false)
    (uncounted : ∀ event, uncountedAt (p.call i) next = some event →
      p.uncounted s i = some event ∧ store.isEventDuplicate event.eventId = true) :
    p.Invariant store₀ ({ s with store }.move i next) := by
  have sameDefault : p.OnlyDefault s.store → p.OnlyDefault store := by
    simp only [OnlyDefault, Store.activePolicies, policies]
    exact id
  apply invariant.move
  refine ⟨policy_eq_of_policies policies _, ?_, ?_, ?_, ?_, ingested, uncounted⟩
  · rintro j metrics (installing | installing)
    · exact sameDefault (invariant.onlyDefault j metrics installing)
    · exact sameDefault (onlyDefault metrics installing)
  · intro stopped
    rw [Store.state, view] at stopped
    exact ⟨fun j _ => invariant.finished stopped j, finished stopped⟩
  · rw [Store.metrics, view, ← Store.metrics]
  · rw [Store.metrics, view, ← Store.metrics]

omit [DecidableEq Caller] in
theorem tested_of_ingesting {j : Caller} (ingesting : s.phase j = .ingesting)
    (held : p.uncounted s j = some event) : p.tested s j = some event.eventId := by
  simp only [uncounted, ingesting] at held
  cases called : p.call j with
  | resume taskId workspaceId operator => simp [called, uncountedAt] at held
  | evaluate other simulate =>
    simp only [called, uncountedAt, Option.some.injEq] at held
    simp [tested, called, ingesting, held]

/-- A call that finds its event new is the only one that holds an event of this id. -/
theorem Invariant.enroll (invariant : p.Invariant store₀ s) (apart : p.Apart s i)
    (called : p.call i = .evaluate event false) (testing : s.phase i = .testing)
    (fresh : s.store.isEventDuplicate event.eventId = false) :
    p.Invariant store₀ (s.move i .ingesting) := by
  have admitted : p.admits s i = some event.eventId := by
    simp [admits, called, testing, fresh]
  have others : ∀ j other, p.uncounted s j = some other → other.eventId ≠ event.eventId := by
    intro j other held same
    obtain ingesting | known := invariant.recorded j other held
    · apply apart.2 (by simp [admitted]) j
      rw [tested_of_ingesting ingesting held, admitted, same]
    · rw [same, fresh] at known
      cases known
  have before : ∀ j other, p.uncounted (s.move i .ingesting) j = some other →
      j = i ∧ other = event ∨ j ≠ i ∧ p.uncounted s j = some other := by
    intro j other after
    by_cases same : j = i
    · subst same
      refine Or.inl ⟨rfl, ?_⟩
      simpa [uncounted, State.move, called, uncountedAt, eq_comm] using after
    · rw [uncounted_of_phase (by simp [State.move, same] : _ = s.phase j)] at after
      exact Or.inr ⟨same, after⟩
  refine ⟨⟨invariant.distinct, invariant.cost, invariant.requests⟩, ?_, ?_, ?_, ?_, ?_⟩
  · intro j metrics installing
    by_cases same : j = i
    · subst same
      simp [State.move] at installing
    · exact invariant.onlyDefault j metrics (by simpa [State.move, same] using installing)
  · intro stopped j
    by_cases same : j = i
    · subst same
      simp [overwrites, State.move, called, overwritesAt]
    · simpa [overwrites, policy, State.move, same] using invariant.finished stopped j
  · intro j k first second heldFirst heldSecond same
    obtain ⟨rfl, rfl⟩ | ⟨-, oldFirst⟩ := before j first heldFirst <;>
      obtain ⟨rfl, rfl⟩ | ⟨-, oldSecond⟩ := before k second heldSecond
    · rfl
    · exact absurd same.symm (others k second oldSecond)
    · exact absurd same (others j first oldFirst)
    · exact invariant.unique j k first second oldFirst oldSecond same
  · intro j other held
    obtain ⟨rfl, rfl⟩ | ⟨other', held⟩ := before j other held
    · exact Or.inl (by simp [State.move])
    · simpa [State.move, other'] using invariant.recorded j other held
  · intro counted member
    obtain ⟨known, distinct⟩ := invariant.counted counted member
    refine ⟨known, fun j other held => ?_⟩
    obtain ⟨rfl, rfl⟩ | ⟨-, held⟩ := before j other held
    · intro same
      rw [← same, fresh] at known
      cases known
    · exact distinct j other held

omit [DecidableEq Caller] in
/-- A call that has marked its event holds an event that is known. -/
theorem Invariant.known (invariant : p.Invariant store₀ s)
    (held : p.uncounted s i = some event) (marked : s.phase i ≠ .ingesting) :
    s.store.isEventDuplicate event.eventId = true :=
  (invariant.recorded i event held).resolve_left marked

omit [DecidableEq Caller] in
theorem CountedOnce.count (countedOnce : p.CountedOnce store₀ s)
    (about : event.taskId = p.taskId ∧ event.workspaceId = p.workspaceId)
    (fresh : ∀ counted ∈ s.contributed, event.eventId ≠ counted.eventId) :
    p.CountedOnce store₀ (s.count event) := by
  obtain ⟨sameTask, sameWorkspace⟩ := about
  have view : (s.store.updateTaskMetrics event).view p.taskId p.workspaceId = _ :=
    Store.view_updateTaskMetrics event
  cases owned : s.store.owned event.taskId event.workspaceId with
  | false =>
    rw [owned, if_neg (by simp)] at view
    have unchanged : (s.count event).contributed = s.contributed := by
      simp [State.count, owned]
    refine ⟨?_, ?_, ?_⟩
    · rw [unchanged]
      exact countedOnce.distinct
    · rw [Store.metrics, State.count, view, ← State.count, unchanged]
      exact countedOnce.cost
    · rw [Store.metrics, State.count, view, ← State.count, unchanged]
      exact countedOnce.requests
  | true =>
    rw [owned, if_pos ⟨⟨sameTask.symm, sameWorkspace.symm⟩, rfl⟩, sameTask, sameWorkspace] at view
    have added : (s.count event).contributed = s.contributed ++ [event] := by
      simp [State.count, owned]
    refine ⟨?_, ?_, ?_⟩
    · rw [added, List.map_append]
      refine List.nodup_append.mpr ⟨countedOnce.distinct, by simp, ?_⟩
      rintro eventId earlier other member rfl
      obtain ⟨counted, member', same⟩ := List.mem_map.mp earlier
      exact fresh counted member' ((List.mem_singleton.mp member).symm.trans same.symm)
    · rw [added, Store.metrics, State.count, view, List.map_append, List.sum_append, ← add_assoc,
        ← countedOnce.cost]
      simp [TaskMetrics.count, TaskMetrics.after]
    · rw [added, Store.metrics, State.count, view, List.length_append, ← Nat.add_assoc,
        ← countedOnce.requests]
      rfl

/-- The metric update: the event is counted, and no call holds one of its id any more. -/
theorem Invariant.count {decision : GuardrailDecision} (invariant : p.Invariant store₀ s)
    (called : p.call i = .evaluate event simulate) (counting : s.phase i = .counting decision) :
    p.Invariant store₀ ((s.count event).move i (.recording decision)) := by
  have about : event.taskId = p.taskId ∧ event.workspaceId = p.workspaceId := by
    simpa [called, Request.isAbout] using p.about i
  have held : p.uncounted s i = some event := by
    simp [uncounted, called, counting, uncountedAt]
  have known := invariant.known held (by simp [counting])
  have policies : (s.count event).store.policies = s.store.policies := by
    rw [State.count, Store.updateTaskMetrics, Store.policies_getOrCreateTaskState,
      Store.policies_updateTask]
  have dup : (s.count event).store.isEventDuplicate = s.store.isEventDuplicate := by
    funext eventId
    rw [Store.isEventDuplicate, State.count, Store.ingested_updateTaskMetrics,
      ← Store.isEventDuplicate]
  have before : ∀ j other, p.uncounted ((s.count event).move i (.recording decision)) j =
      some other → j ≠ i ∧ p.uncounted s j = some other := by
    intro j other later
    by_cases same : j = i
    · subst same
      simp [uncounted, State.move, called, uncountedAt] at later
    · rw [uncounted_of_phase (by simp [State.move, State.count, same] : _ = s.phase j)] at later
      exact ⟨same, later⟩
  have countedOnce := invariant.toCountedOnce.count about fun counted member =>
    (invariant.counted counted member).2 i event held
  refine ⟨⟨countedOnce.distinct, countedOnce.cost, countedOnce.requests⟩, ?_, ?_, ?_, ?_, ?_⟩
  · intro j metrics installing
    by_cases same : j = i
    · subst same
      simp [State.move] at installing
    · simp only [OnlyDefault, Store.activePolicies, State.move, policies]
      exact invariant.onlyDefault j metrics (by simpa [State.move, State.count, same] using installing)
  · intro stopped j
    have samePolicy : p.policy ((s.count event).move i (.recording decision)) = p.policy s :=
      policy_eq_of_policies policies _
    rw [overwrites, samePolicy]
    by_cases same : j = i
    · subst same
      simp [State.move, called, overwritesAt]
    · rw [State.move, State.count, Store.state_updateTaskMetrics] at stopped
      simpa [State.move, State.count, same, overwrites] using invariant.finished stopped j
  · intro j k first second heldFirst heldSecond same
    exact invariant.unique j k first second (before j first heldFirst).2
      (before k second heldSecond).2 same
  · intro j other later
    obtain ⟨apart, earlier⟩ := before j other later
    rw [State.move, dup]
    simpa [State.count, apart] using invariant.recorded j other earlier
  · intro counted member
    have split : counted ∈ s.contributed ∨ counted = event := by
      simp only [State.move, State.count] at member
      split at member
      · simpa using member
      · exact Or.inl member
    rw [State.move, dup]
    obtain earlier | rfl := split
    · obtain ⟨seen, distinct⟩ := invariant.counted counted earlier
      exact ⟨seen, fun j other later => distinct j other (before j other later).2⟩
    · refine ⟨known, fun j other later same => ?_⟩
      obtain ⟨apart, earlier⟩ := before j other later
      exact apart (invariant.unique j i other counted earlier held same)

theorem Invariant.enforce {decision : GuardrailDecision} (invariant : p.Invariant store₀ s)
    (apart : p.Apart s i) (called : p.call i = .evaluate event simulate)
    (enforcing : s.phase i = .enforcing decision) :
    p.Invariant store₀ ({ s with store := s.store.enforce event decision }.move i
      (.counting decision)) := by
  obtain ⟨sameTask, sameWorkspace⟩ : event.taskId = p.taskId ∧ event.workspaceId = p.workspaceId := by
    simpa [called, Request.isAbout] using p.about i
  have held : p.uncounted s i = some event := by
    simp [uncounted, called, enforcing, uncountedAt]
  have known := invariant.known held (by simp [enforcing])
  have policies : (s.store.enforce event decision).policies = s.store.policies := by
    rw [Store.enforce_eq, Store.policies_updateTask]
  have dup : (s.store.enforce event decision).isEventDuplicate = s.store.isEventDuplicate := by
    funext eventId
    rw [Store.isEventDuplicate, Store.ingested_enforce, ← Store.isEventDuplicate]
  apply invariant.move
  refine ⟨policy_eq_of_policies policies _, ?_, ?_, ?_, ?_, ?_, ?_⟩
  · rintro j metrics (installing | installing)
    · simpa only [OnlyDefault, Store.activePolicies, policies] using
        invariant.onlyDefault j metrics installing
    · cases installing
  · intro stopped
    refine ⟨fun j _ => ?_, by simp [overwritesAt, called]⟩
    rw [Store.state, Store.view_enforce, sameTask, sameWorkspace] at stopped
    split at stopped
    · next both =>
      cases decides : decision.decision with
      | pause => rw [decides] at stopped; cases stopped
      | stop => exact apart.1 (by simp [stops, enforcing, decides, both.2]) j
      | allow => rw [decides] at stopped; exact invariant.finished stopped j
      | deny => rw [decides] at stopped; exact invariant.finished stopped j
    · exact invariant.finished stopped j
  · rw [Store.metrics_enforce]
  · rw [Store.metrics_enforce]
  · rw [dup]
    exact fun _ => id
  · intro other same
    simp only [called, uncountedAt, Option.some.injEq] at same
    subst same
    rw [dup]
    exact ⟨held, known⟩

omit [DecidableEq Caller] in
theorem OnlyDefault.policy (onlyDefault : p.OnlyDefault store) :
    (getOrCreateDefaultPolicy store p.workspaceId).1 = defaultPolicy p.workspaceId := by
  rw [getOrCreateDefaultPolicy, Store.getPolicy]
  obtain none | one := onlyDefault
  · rw [none]
    rfl
  · rw [one]
    rfl

omit [DecidableEq Caller] in
theorem OnlyDefault.savePolicy (onlyDefault : p.OnlyDefault store) :
    (store.savePolicy (defaultPolicy p.workspaceId)).activePolicies p.workspaceId =
      [defaultPolicy p.workspaceId] := by
  have saved := Store.activePolicies_savePolicy (s := store)
    (rfl : (defaultPolicy p.workspaceId).isActive = true)
  refine saved.trans ?_
  obtain none | one := onlyDefault
  · exact congrArg (fun rest => List.filter _ rest ++ _) none
  · refine (congrArg (fun rest => List.filter _ rest ++ _) one).trans ?_
    rw [List.filter_singleton]
    simp

omit [DecidableEq Caller] in
theorem uncountedAt_settle {metrics : Option TaskMetrics} {policy : GuardrailPolicy}
    {other : RuntimeTelemetryEvent} (called : p.call i = .evaluate event simulate)
    (held : uncountedAt (p.call i) (p.settle event policy metrics) = some other) :
    other = event ∧ metrics.isSome := by
  cases metrics with
  | none => simp [called, settle, uncountedAt] at held
  | some metrics =>
    rw [called] at held
    cases held
    exact ⟨rfl, rfl⟩

theorem Invariant.install {metrics : Option TaskMetrics} (invariant : p.Invariant store₀ s)
    (called : p.call i = .evaluate event simulate) (installing : s.phase i = .installing metrics) :
    p.Invariant store₀ ({ s with
      store := s.store.savePolicy (defaultPolicy event.workspaceId) }.move i
        (p.settle event (defaultPolicy event.workspaceId) metrics)) := by
  have about : event.taskId = p.taskId ∧ event.workspaceId = p.workspaceId := by
    simpa [called, Request.isAbout] using p.about i
  have onlyDefault := invariant.onlyDefault i metrics installing
  have alone := onlyDefault.savePolicy
  have current : p.policy s = defaultPolicy p.workspaceId := onlyDefault.policy
  rw [about.2]
  apply invariant.move
  have tasks : (s.store.savePolicy (defaultPolicy p.workspaceId)).view = s.store.view :=
    Store.view_eq_of_tasks (Store.tasks_savePolicy _)
  refine ⟨?_, fun _ _ _ => Or.inr alone, fun stopped => ⟨fun j _ => ?_, ?_⟩, ?_, ?_,
    fun _ => id, ?_⟩
  · rw [current]
    exact OnlyDefault.policy (Or.inr alone)
  · exact invariant.finished stopped j
  · have before := invariant.finished stopped i
    rw [overwrites, called, installing] at before
    rw [called]
    cases metrics with
    | none => rfl
    | some metrics =>
      simpa [settle, overwritesAt, pauses, current] using before
  · rw [Store.metrics, tasks, ← Store.metrics]
  · rw [Store.metrics, tasks, ← Store.metrics]
  · intro other held
    obtain ⟨rfl, isSome⟩ := uncountedAt_settle called held
    obtain ⟨metrics, rfl⟩ := Option.isSome_iff_exists.mp isSome
    have held : p.uncounted s i = some other := by
      simp [Session.uncounted, called, installing, uncountedAt]
    exact ⟨held, invariant.known held (by simp [installing])⟩

theorem Invariant.read {row : TaskRow} (invariant : p.Invariant store₀ s)
    (called : p.call i = .evaluate event simulate) (reading : s.phase i = .reading)
    (found : s.store.taskRow p.taskId p.workspaceId = some row) :
    p.Invariant store₀ (s.move i (consider event row)) := by
  have held : p.uncounted s i = some event := by
    simp [uncounted, called, reading, uncountedAt]
  have known := invariant.known held (by simp [reading])
  have state : s.store.state p.taskId p.workspaceId = row.state := by
    simp [Store.state, Store.view, found, TaskRow.view]
  have running : ∀ other, uncountedAt (p.call i) (.configuring (some row.metrics)) = some other →
      p.uncounted s i = some other ∧ s.store.isEventDuplicate other.eventId = true := by
    intro other same
    rw [called] at same
    cases same
    exact ⟨held, known⟩
  rw [consider]
  cases lifecycle : row.state with
  | stopped | paused =>
    exact invariant.quiet rfl rfl (fun _ => id) (by rintro _ ⟨⟩) (fun _ => by simp [overwritesAt, called])
      (fun _ => by simp [uncountedAt, called])
  | active | completed =>
    apply invariant.quiet rfl rfl (fun _ => id)
    · rintro _ ⟨⟩
    · intro stopped
      rw [state, lifecycle] at stopped
      cases stopped
    · exact running

theorem Invariant.configure {metrics : Option TaskMetrics} (invariant : p.Invariant store₀ s)
    (called : p.call i = .evaluate event simulate) (configuring : s.phase i = .configuring metrics)
    (policy : GuardrailPolicy) (current : p.policy s = policy) :
    p.Invariant store₀ (s.move i (p.settle event policy metrics)) := by
  apply invariant.quiet rfl rfl (fun _ => id)
  · intro other installing
    cases metrics <;> cases installing
  · intro stopped
    have before := invariant.finished stopped i
    rw [overwrites, called, configuring] at before
    rw [called]
    cases metrics with
    | none => rfl
    | some metrics => simpa [settle, overwritesAt, pauses, current] using before
  · intro other held
    obtain ⟨rfl, isSome⟩ := uncountedAt_settle called held
    obtain ⟨metrics, rfl⟩ := Option.isSome_iff_exists.mp isSome
    have held : p.uncounted s i = some other := by
      simp [Session.uncounted, called, configuring, uncountedAt]
    exact ⟨held, invariant.known held (by simp [configuring])⟩

theorem Invariant.advanceEvaluation {s' : State Caller} (invariant : p.Invariant store₀ s)
    (apart : p.Apart s i) (called : p.call i = .evaluate event simulate)
    (stepped : p.advanceEvaluation s i event simulate = some s') : p.Invariant store₀ s' := by
  have about : event.taskId = p.taskId ∧ event.workspaceId = p.workspaceId := by
    simpa [called, Request.isAbout] using p.about i
  rw [Session.advanceEvaluation, about.1, about.2] at stepped
  cases phase : s.phase i with
  | testing =>
    rw [phase] at stepped
    simp only at stepped
    split_ifs at stepped with known failing <;> cases stepped
    · exact invariant.quiet rfl rfl (fun _ => id) (by rintro _ ⟨⟩) (fun _ => by simp [overwritesAt, called])
        (fun _ => by simp [uncountedAt, called])
    · exact invariant.quiet rfl rfl (fun _ => id) (by rintro _ ⟨⟩) (fun _ => by simp [overwritesAt, called])
        (fun _ => by simp [uncountedAt, called])
    · rw [Bool.not_eq_true] at known failing
      subst failing
      exact invariant.enroll apart called phase known
  | ingesting =>
    rw [phase] at stepped
    cases stepped
    apply invariant.quiet (Store.policies_recordEventIngestion _)
      (Store.view_eq_of_tasks (Store.tasks_recordEventIngestion _))
    · intro eventId known
      rw [Store.isEventDuplicate_recordEventIngestion, known, Bool.true_or]
    · rintro _ ⟨⟩
    · exact fun _ => by simp [overwritesAt, called]
    · intro other held
      rw [called] at held
      cases held
      exact ⟨by simp [uncounted, called, phase, uncountedAt],
        by simp [Store.isEventDuplicate_recordEventIngestion, RuntimeTelemetryEvent.ingestion]⟩
  | reading =>
    rw [phase] at stepped
    simp only at stepped
    split at stepped <;> cases stepped
    · next row found => exact invariant.read called phase found
    · next absent =>
      have held : p.uncounted s i = some event := by
        simp [uncounted, called, phase, uncountedAt]
      apply invariant.quiet rfl rfl (fun _ => id)
      · rintro _ ⟨⟩
      · -- a task without a row is not stopped
        intro stopped
        simp [Store.state, Store.view, absent] at stopped
      · intro other same
        rw [called] at same
        cases same
        exact ⟨held, invariant.known held (by simp [phase])⟩
  | creating =>
    rw [phase] at stepped
    cases stepped
    have held : p.uncounted s i = some event := by
      simp [uncounted, called, phase, uncountedAt]
    have ingested : ∀ row, (s.store.insertTask p.taskId row).isEventDuplicate =
        s.store.isEventDuplicate := by
      intro row
      funext eventId
      rw [Store.isEventDuplicate, Store.ingested_insertTask, ← Store.isEventDuplicate]
    apply invariant.quiet (Store.policies_insertTask _) (Store.view_insertTask rfl)
    · rw [ingested]
      exact fun _ => id
    · rintro _ ⟨⟩
    · intro stopped
      have before := invariant.finished stopped i
      rw [overwrites, called, phase] at before
      rw [called]
      exact before
    · intro other same
      rw [called] at same
      cases same
      rw [ingested]
      exact ⟨held, invariant.known held (by simp [phase])⟩
  | configuring metrics =>
    rw [phase] at stepped
    simp only at stepped
    split at stepped <;> cases stepped
    · next policy found =>
      apply invariant.configure called phase
      rw [Session.policy, getOrCreateDefaultPolicy, found]
    · next none =>
      apply invariant.quiet rfl rfl (fun _ => id)
      · exact fun _ _ => Or.inl (Store.activePolicies_eq_nil none)
      · intro stopped
        have before := invariant.finished stopped i
        rw [overwrites, called, phase] at before
        rw [called]
        cases metrics <;> exact before
      · intro other held
        cases metrics with
        | none => simp [called, uncountedAt] at held
        | some metrics =>
          rw [called] at held
          cases held
          have held : p.uncounted s i = some event := by
            simp [uncounted, called, phase, uncountedAt]
          exact ⟨held, invariant.known held (by simp [phase])⟩
  | installing metrics =>
    rw [phase] at stepped
    cases stepped
    rw [← about.2]
    exact invariant.install called phase
  | enforcing decision =>
    rw [phase] at stepped
    cases stepped
    exact invariant.enforce apart called phase
  | counting decision =>
    rw [phase] at stepped
    cases stepped
    exact invariant.count called phase
  | recording decision =>
    rw [phase] at stepped
    cases stepped
    exact invariant.quiet rfl rfl (fun _ => id) (by rintro _ ⟨⟩) (fun _ => by simp [overwritesAt, called])
      (fun _ => by simp [uncountedAt, called])
  | resuming => rw [phase] at stepped; cases stepped
  | answered _ => rw [phase] at stepped; cases stepped

omit [DecidableEq Caller] in
theorem uncountedAt_resume {taskId workspaceId operator : Str} (phase : Phase) :
    uncountedAt (.resume taskId workspaceId operator) phase = none := by
  cases phase <;> rfl

theorem Invariant.advanceResumption {taskId workspaceId operator : Str} {s' : State Caller}
    (invariant : p.Invariant store₀ s)
    (called : p.call i = .resume taskId workspaceId operator)
    (stepped : p.advanceResumption s i operator = some s') : p.Invariant store₀ s' := by
  have eventless : ∀ (store : Store) phase event, uncountedAt (p.call i) phase = some event →
      p.uncounted s i = some event ∧ store.isEventDuplicate event.eventId = true := by
    intro store phase event held
    rw [called, uncountedAt_resume] at held
    cases held
  rw [Session.advanceResumption] at stepped
  cases phase : s.phase i with
  | reading =>
    rw [phase] at stepped
    simp only at stepped
    split at stepped <;> cases stepped
    · next row found =>
      have state : s.store.state p.taskId p.workspaceId = row.state := by
        simp [Store.state, Store.view, found, TaskRow.view]
      split
      · next paused =>
        apply invariant.quiet rfl rfl (fun _ => id)
        · rintro _ ⟨⟩
        · intro stopped
          rw [state, paused] at stopped
          cases stopped
        · exact eventless _ _
      · apply invariant.quiet rfl rfl (fun _ => id)
        · rintro _ ⟨⟩
        · exact fun _ => by simp [overwritesAt, called]
        · exact eventless _ _
    · apply invariant.quiet rfl rfl (fun _ => id)
      · rintro _ ⟨⟩
      · exact fun _ => by simp [overwritesAt, called]
      · exact eventless _ _
  | creating =>
    rw [phase] at stepped
    cases stepped
    apply invariant.quiet (Store.policies_insertTask _) (Store.view_insertTask rfl)
    · intro eventId known
      rwa [Store.isEventDuplicate, Store.ingested_insertTask]
    · rintro _ ⟨⟩
    · exact fun _ => by simp [overwritesAt, called]
    · exact eventless _ _
  | resuming =>
    rw [phase] at stepped
    cases stepped
    apply invariant.move
    refine ⟨policy_eq_of_policies (Store.policies_updateTask _) _, ?_, ?_, ?_, ?_, ?_, eventless _ _⟩
    · rintro j metrics (installing | installing)
      · simpa only [OnlyDefault, Store.activePolicies, Store.policies_updateTask] using
          invariant.onlyDefault j metrics installing
      · cases installing
    · intro stopped
      rw [Store.state, Store.view_resume] at stopped
      split at stopped
      · cases stopped
      · exact ⟨fun j _ => invariant.finished stopped j, by simp [overwritesAt, called]⟩
    · rw [Store.metrics, Store.view_resume]
      split <;> rfl
    · rw [Store.metrics, Store.view_resume]
      split <;> rfl
    · intro eventId known
      rwa [Store.isEventDuplicate, Store.ingested_updateTask]
  | _ => rw [phase] at stepped; cases stepped

theorem Invariant.step {s' : State Caller} (invariant : p.Invariant store₀ s)
    (apart : p.Apart s i) (stepped : p.machine.step s i = some s') : p.Invariant store₀ s' := by
  change p.advance s i = some s' at stepped
  rw [advance] at stepped
  cases called : p.call i with
  | evaluate event simulate =>
    rw [called] at stepped
    exact invariant.advanceEvaluation apart called stepped
  | resume taskId workspaceId operator =>
    rw [called] at stepped
    exact invariant.advanceResumption called stepped

omit [DecidableEq Caller] in
theorem invariant_start (p : Session Caller) (store : Store) :
    p.Invariant store (p.start store) := by
  have started : ∀ i, (p.start store).phase i = .testing ∨ (p.start store).phase i = .reading ∧
      ∃ taskId workspaceId operator, p.call i = .resume taskId workspaceId operator := by
    intro i
    simp only [start]
    cases p.call i with
    | evaluate event simulate => exact Or.inl rfl
    | resume taskId workspaceId operator => exact Or.inr ⟨rfl, taskId, workspaceId, operator, rfl⟩
  have eventless : ∀ i, p.uncounted (p.start store) i = none := by
    intro i
    obtain testing | ⟨-, taskId, workspaceId, operator, called⟩ := started i
    · rw [uncounted, testing]
      cases p.call i <;> rfl
    · rw [uncounted, called, uncountedAt_resume]
  refine ⟨⟨List.nodup_nil, by simp [start], by simp [start]⟩, ?_, ?_, ?_, ?_, ?_⟩
  · intro i metrics installing
    obtain testing | ⟨reading, -⟩ := started i
    · rw [testing] at installing
      cases installing
    · rw [reading] at installing
      cases installing
  · intro _ i
    rw [overwrites]
    obtain testing | ⟨reading, -⟩ := started i
    · rw [testing]
      cases p.call i <;> rfl
    · rw [reading]
      cases p.call i <;> rfl
  · intro i j event other held
    rw [eventless] at held
    cases held
  · intro i event held
    rw [eventless] at held
    cases held
  · rintro _ ⟨⟩

theorem Invariant.staysStopped {s' : State Caller} (invariant : p.Invariant store₀ s)
    (stepped : p.machine.step s i = some s')
    (stopped : s.store.state p.taskId p.workspaceId = .stopped) :
    s'.store.state p.taskId p.workspaceId = .stopped := by
  have finished := invariant.finished stopped i
  change p.advance s i = some s' at stepped
  rw [advance] at stepped
  cases called : p.call i with
  | evaluate event simulate =>
    have about : event.taskId = p.taskId ∧ event.workspaceId = p.workspaceId := by
      simpa [called, Request.isAbout] using p.about i
    rw [called] at stepped
    simp only [Session.advanceEvaluation] at stepped
    cases phase : s.phase i with
    | testing =>
      rw [phase] at stepped
      simp only at stepped
      split_ifs at stepped <;> cases stepped <;> exact stopped
    | ingesting =>
      rw [phase] at stepped
      cases stepped
      rw [State.move, Store.state, Store.view_eq_of_tasks (Store.tasks_recordEventIngestion _)]
      exact stopped
    | reading | configuring =>
      rw [phase] at stepped
      simp only at stepped
      split at stepped <;> cases stepped <;> exact stopped
    | creating =>
      rw [phase] at stepped
      cases stepped
      rw [State.move, Store.state, Store.view_insertTask rfl]
      exact stopped
    | installing metrics =>
      rw [phase] at stepped
      cases stepped
      rw [State.move, Store.state, Store.view_eq_of_tasks (Store.tasks_savePolicy _)]
      exact stopped
    | enforcing decision =>
      rw [phase] at stepped
      cases stepped
      rw [State.move, Store.state, Store.view_enforce, about.1, about.2]
      split
      · rw [stopped]
        cases decides : decision.decision with
        | pause => simp [overwrites, called, phase, overwritesAt, decides] at finished
        | stop | allow | deny => rfl
      · exact stopped
    | counting decision =>
      rw [phase] at stepped
      cases stepped
      rw [State.move, State.count, Store.state_updateTaskMetrics]
      exact stopped
    | recording decision =>
      rw [phase] at stepped
      cases stepped
      exact stopped
    | resuming | answered _ => rw [phase] at stepped; cases stepped
  | resume taskId workspaceId operator =>
    rw [called] at stepped
    simp only [Session.advanceResumption] at stepped
    cases phase : s.phase i with
    | reading =>
      rw [phase] at stepped
      simp only at stepped
      split at stepped <;> cases stepped <;> exact stopped
    | creating =>
      rw [phase] at stepped
      cases stepped
      rw [State.move, Store.state, Store.view_insertTask rfl]
      exact stopped
    | resuming => simp [overwrites, called, phase, overwritesAt] at finished
    | _ => rw [phase] at stepped; cases stepped

/-- Concurrent calls: if no call stops the task while another one has yet to pause or
    resume it, and no two calls find one id new together, then no statement leaves STOPPED and
    every event is counted at most once. -/
theorem stopped_absorbing_and_counted_once (p : Session Caller) (store : Store)
    (schedule : List Caller) (apart : p.machine.Guarded p.Apart (p.start store) schedule) :
    p.machine.Guarded (p.Kept store) (p.start store) schedule := by
  apply p.machine.guarded_imp (p.Invariant store) _ _ (invariant_start p store) apart
  · intro s i invariant apart s' stepped
    exact ⟨invariant.staysStopped stepped, (invariant.step apart stepped).toCountedOnce⟩
  · exact fun _ _ _ invariant apart stepped => invariant.step apart stepped

end Session

/-! ## Two calls -/

section TwoCalls

def toolCall (eventId : Str) : RuntimeTelemetryEvent where
  eventId := eventId
  workspaceId := "ws-1"
  agentId := "agent-1"
  taskId := "task-1"
  actionType := "tool_run"

def stopAndPause : Session Bool where
  lower := Library.lower
  taskId := "task-1"
  workspaceId := "ws-1"
  call retry := .evaluate (if retry then { toolCall "evt-2" with isRetry := true }
    else { toolCall "evt-1" with costUsd := 30 }) false
  about retry := by cases retry <;> exact ⟨rfl, rfl⟩

def sentTwice : Session Bool where
  lower := Library.lower
  taskId := "task-1"
  workspaceId := "ws-1"
  call _ := .evaluate (toolCall "evt-1") false
  about _ := ⟨rfl, rfl⟩

def retried : Store where
  policies := [defaultPolicy "ws-1"]
  tasks taskId :=
    if taskId = "task-1" then
      some { workspaceId := "ws-1", agentId := "agent-1", metrics := { retryCount := 2 } }
    else none
  ingested := []
  decisions := []

/-- Both calls read the task; the first one stops it. -/
def bothRead : List Bool := [false, true, false, true, false, true, false, true, false]

/-- The second call pauses a stopped task; and an event is counted twice. -/
theorem late_pause_and_double_count :
    ¬ stopAndPause.machine.Guarded (stopAndPause.Kept retried) (stopAndPause.start retried)
        (bothRead ++ [true]) ∧
      ¬ sentTwice.machine.Guarded (sentTwice.Kept retried) (sentTwice.start retried)
        (bothRead ++ [true, false] ++ [true]) := by
  constructor
  · intro kept
    have stops : ((stopAndPause.machine.run (stopAndPause.start retried) bothRead).map
        fun s => s.store.state "task-1" "ws-1") = some .stopped := by decide +kernel
    have pauses : ((stopAndPause.machine.run (stopAndPause.start retried) (bothRead ++ [true])).map
        fun s => s.store.state "task-1" "ws-1") = some .paused := by decide +kernel
    obtain ⟨s, ran, stopped⟩ := Option.map_eq_some_iff.mp stops
    obtain ⟨s', ran', paused⟩ := Option.map_eq_some_iff.mp pauses
    rw [Machine.run_concat, ran] at ran'
    have absorbed := (stopAndPause.machine.guarded_last kept ran s' ran').1 stopped
    exact absurd (paused.symm.trans absorbed) (by decide)
  · intro kept
    have counts : ((sentTwice.machine.run (sentTwice.start retried)
        (bothRead ++ [true, false] ++ [true])).map fun s =>
          s.contributed.map RuntimeTelemetryEvent.eventId) = some ([("evt-1" : Str), "evt-1"]) := by
      decide +kernel
    obtain ⟨s', ran', twice⟩ := Option.map_eq_some_iff.mp counts
    rw [Machine.run_concat] at ran'
    obtain ⟨s, ran, stepped⟩ := Option.bind_eq_some_iff.mp ran'
    have distinct := (sentTwice.machine.guarded_last kept ran s' stepped).2.distinct
    rw [twice] at distinct
    exact absurd distinct (by decide)

def inTurn : List Bool := List.replicate 7 false ++ List.replicate 4 true

theorem kept_in_turn :
    stopAndPause.machine.Guarded (stopAndPause.Kept retried) (stopAndPause.start retried) inTurn :=
  stopAndPause.stopped_absorbing_and_counted_once retried inTurn (by decide +kernel)

end TwoCalls

end BurnLens.Guardrails
