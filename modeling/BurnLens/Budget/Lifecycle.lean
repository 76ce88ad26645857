import BurnLens.Library.Machine
import BurnLens.Budget.Policy
import Mathlib.Algebra.BigOperators.Ring.Finset
import Mathlib.Data.Fintype.BigOperators
import Mathlib.Tactic.Linarith
import Mathlib.Tactic.Ring

/-! # The life of a reservation

From `check_and_reserve` to `reconcile`: `handle_request`, the two upstream handlers, the
stream generator and the background task that it spawns, as far as they decide whether the
reservation of a request is released.  Every await, and every call that can raise, is a
step, and the requests interleave freely.  The counter rows exist; the statements of one
transaction take effect together, since they only add to the rows.
-/

namespace BurnLens.Budget

open Library

structure RetryConfig where
  enabled : Bool
  maxRetries : Nat
  retryOnStatus : List Nat

def shouldRetryStatus (status attempt : Nat) : Option RetryConfig → Bool
  | some cfg => cfg.enabled && decide (attempt < cfg.maxRetries) &&
      cfg.retryOnStatus.contains status
  | none => false

def shouldRetryConnect (attempt : Nat) : Option RetryConfig → Bool
  | some cfg => cfg.enabled && decide (attempt < cfg.maxRetries)
  | none => false

/-- What `check_and_reserve` returns for a request it admits under some policy. -/
structure Reservation where
  estimatedCost : Usd
  policies : List PolicyPeriod
  positive : 0 < estimatedCost
  nonempty : policies ≠ []

def addToCounters (counters : CounterKey → Usd) (policies : List PolicyPeriod) (amount : Usd) :
    CounterKey → Usd :=
  policies.foldl (fun counters entry =>
    Function.update counters (counterKey entry) (counters (counterKey entry) + amount)) counters

def reconcile (counters : CounterKey → Usd) (actualCost : Usd) (reservation : Reservation) :
    CounterKey → Usd :=
  if reservation.policies = [] ∨ reservation.estimatedCost ≤ 0 then counters
  else addToCounters counters reservation.policies (actualCost - reservation.estimatedCost)

inductive Phase where
  | arrived
  -- reserved, and about to call `resolve_upstream_url`
  | admitted
  | sending (attempt : Nat)
  -- a stream was refused: about to read the error body
  | readingError
  -- the stream generator is returned and not started
  | offered (status : Nat)
  | iterating (status : Nat)
  -- about to compute the cost: in the handler, or in `_log_streaming_usage`
  | costing (status : Nat)
  | reconciling (cost : Usd)
  -- over, with the recorded cost and the number of times it was reconciled
  | ended (recorded : Usd) (reconciliations : Nat)

def Phase.reserved : Phase → Bool
  | arrived => false
  | ended _ reconciliations => reconciliations == 0
  | _ => true

/-- The recorded cost, which a request that failed does not have. -/
def Phase.recorded : Phase → Usd
  | ended recorded _ => recorded
  | _ => 0

inductive Event where
  | reserve
  | resolve
  | connectError
  | answer (status : Nat)
  | readError
  | iterate
  -- the generator is exhausted, closed early or fails: its `finally` block runs
  | finishStream
  | computeCost (cost : Usd)
  | reconcile
  -- the step at hand raises
  | raise
  -- the generator is dropped before its first chunk, so its `finally` never runs
  | abandonStream

structure Traffic (Request : Type*) where
  reservation : Request → Reservation
  streaming : Request → Bool
  retry : Option RetryConfig

structure LifeState (Request : Type*) where
  counters : CounterKey → Usd
  phase : Request → Phase

variable {Request : Type*} [DecidableEq Request]

def LifeState.move (s : LifeState Request) (i : Request) (next : Phase) : LifeState Request :=
  { s with phase := Function.update s.phase i next }

namespace Traffic

variable (t : Traffic Request)

/-- The control flow of one request, apart from the counters. -/
def next (i : Request) : Phase → Event → Option Phase
  | .arrived, .reserve => some .admitted
  | .admitted, .resolve => some (.sending 0)
  | .admitted, .raise => some (.ended 0 0)
  | .sending attempt, .connectError =>
    if shouldRetryConnect attempt t.retry then some (.sending (attempt + 1))
    else some (.ended 0 0)
  | .sending _, .raise => some (.ended 0 0)
  | .sending attempt, .answer status =>
    if shouldRetryStatus status attempt t.retry then some (.sending (attempt + 1))
    else if t.streaming i then
      if status ≥ 400 then some .readingError else some (.offered status)
    else some (.costing status)
  | .readingError, .readError => some (.reconciling 0)
  | .readingError, .raise => some (.ended 0 0)
  | .offered status, .iterate => some (.iterating status)
  | .offered _, .abandonStream => some (.ended 0 0)
  | .iterating status, .iterate => some (.iterating status)
  | .iterating status, .finishStream => some (.costing status)
  -- `response.aclose()` or the split of the buffer raises before the task is spawned
  | .iterating _, .raise => some (.ended 0 0)
  | .costing status, .computeCost cost =>
    some (.reconciling (if status < 400 then cost else 0))
  | .costing _, .raise => some (.ended 0 0)
  | .reconciling cost, .reconcile => some (.ended cost 1)
  -- a failed reconciliation is only logged
  | .reconciling cost, .raise => some (.ended cost 0)
  | _, _ => none

def effect (i : Request) (counters : CounterKey → Usd) : Phase → Event → CounterKey → Usd
  | .arrived, .reserve =>
    addToCounters counters (t.reservation i).policies (t.reservation i).estimatedCost
  | .reconciling cost, .reconcile => BurnLens.Budget.reconcile counters cost (t.reservation i)
  | _, _ => counters

def machine : Machine (LifeState Request) (Request × Event) where
  step s label :=
    (t.next label.1 (s.phase label.1) label.2).map fun phase =>
      { s with counters := t.effect label.1 s.counters (s.phase label.1) label.2 }.move
        label.1 phase

/-- No request has arrived, and the counters hold `before`. -/
def start (before : CounterKey → Usd) : LifeState Request :=
  ⟨before, fun _ => .arrived⟩

/-! ## Exact accounting -/

def held (i : Request) (phase : Phase) : Usd :=
  if phase.reserved then (t.reservation i).estimatedCost else phase.recorded

def multiplicity (i : Request) (key : CounterKey) : Usd :=
  (counterKeys (t.reservation i).policies).count key

omit [DecidableEq Request]

theorem addToCounters_apply (counters : CounterKey → Usd) (policies : List PolicyPeriod)
    (amount : Usd) (key : CounterKey) :
    addToCounters counters policies amount key =
      counters key + (counterKeys policies).count key * amount := by
  simp only [addToCounters]
  induction policies generalizing counters with
  | nil => simp
  | cons entry policies inductionHypothesis =>
    rw [List.foldl_cons, inductionHypothesis, counterKeys_cons, List.count_cons]
    rcases eq_or_ne (counterKey entry) key with rfl | different
    · simp only [Function.update_self, beq_self_eq_true, if_true]
      push_cast
      ring
    · simp [Function.update_of_ne different.symm, different]

theorem reconcile_apply (counters : CounterKey → Usd) (actualCost : Usd)
    (reservation : Reservation) (key : CounterKey) :
    reconcile counters actualCost reservation key = counters key +
      (counterKeys reservation.policies).count key * (actualCost - reservation.estimatedCost) := by
  simp only [reconcile]
  rw [if_neg, addToCounters_apply]
  rintro (empty | free)
  · exact reservation.nonempty empty
  · exact absurd reservation.positive (not_lt.mpr free)

/-- Three kinds of event: the reservation, its reconciliation, and everything else. -/
theorem next_cases {i : Request} {phase phase' : Phase} {event : Event}
    (stepped : t.next i phase event = some phase') :
    (phase = .arrived ∧ event = .reserve ∧ phase' = .admitted) ∨
    (∃ cost, phase = .reconciling cost ∧ event = .reconcile ∧ phase' = .ended cost 1) ∨
    (phase.reserved = true ∧ phase'.reserved = true ∧
      ∀ counters, t.effect i counters phase event = counters) := by
  simp only [next] at stepped
  split at stepped
  -- the alternatives of `next` in their order: the first reserves, the sixteenth reconciles
  case h_1 => cases stepped; exact Or.inl ⟨rfl, rfl, rfl⟩
  case h_16 => cases stepped; exact Or.inr (Or.inl ⟨_, rfl, rfl, rfl⟩)
  case h_18 => cases stepped
  all_goals
    refine Or.inr (Or.inr ⟨rfl, ?_, fun _ => rfl⟩)
    first
    | cases stepped; rfl
    | split_ifs at stepped <;> cases stepped <;> rfl

theorem next_ended {i : Request} {phase : Phase} {event : Event} {recorded : Usd}
    {reconciliations : Nat} (stepped : t.next i phase event = some (.ended recorded reconciliations)) :
    reconciliations = 1 ∨ event = .raise ∨ event = .abandonStream ∨
      ∃ attempt, phase = .sending attempt ∧ event = .connectError ∧
        shouldRetryConnect attempt t.retry = false := by
  simp only [next] at stepped
  split at stepped
  -- a connect error ends the request once its retries are used up
  case h_4 attempt =>
    split at stepped
    · cases stepped
    · next exhausted =>
      exact Or.inr (Or.inr (Or.inr ⟨attempt, rfl, rfl, by simpa using exhausted⟩))
  case h_6 => split_ifs at stepped <;> cases stepped
  case h_16 => cases stepped; exact Or.inl rfl
  all_goals cases stepped
  all_goals first | exact Or.inr (Or.inl rfl) | exact Or.inr (Or.inr (Or.inl rfl))

theorem effect_apply (i : Request) (counters : CounterKey → Usd) {phase phase' : Phase}
    {event : Event} (key : CounterKey) (stepped : t.next i phase event = some phase') :
    t.effect i counters phase event key + t.multiplicity i key * t.held i phase =
      counters key + t.multiplicity i key * t.held i phase' := by
  obtain ⟨rfl, rfl, rfl⟩ | ⟨cost, rfl, rfl, rfl⟩ | ⟨before, after, same⟩ := t.next_cases stepped
  · simp [effect, held, Phase.reserved, Phase.recorded, addToCounters_apply, multiplicity]
  · simp [effect, held, Phase.reserved, Phase.recorded, reconcile_apply, multiplicity]
    ring
  · rw [same]
    simp [held, before, after]

/-! ## Runs -/

variable [Fintype Request]

/-- Each counter holds what it started with and what each request has on it. -/
def Balanced (before : CounterKey → Usd) (s : LifeState Request) : Prop :=
  ∀ key, s.counters key = before key + ∑ i, t.multiplicity i key * t.held i (s.phase i)

theorem balanced_step [DecidableEq Request] {before : CounterKey → Usd} {s s' : LifeState Request}
    {label : Request × Event} (balanced : t.Balanced before s)
    (stepped : t.machine.step s label = some s') : t.Balanced before s' := by
  obtain ⟨phase, nextPhase, rfl⟩ := Option.map_eq_some_iff.mp stepped
  obtain ⟨i, event⟩ := label
  intro key
  have accounted := t.effect_apply i s.counters key nextPhase
  -- split request `i` off the sum: no other one changes what it holds
  have old := Finset.add_sum_erase Finset.univ
    (fun j => t.multiplicity j key * t.held j (s.phase j)) (Finset.mem_univ i)
  have new := Finset.add_sum_erase Finset.univ
    (fun j => t.multiplicity j key * t.held j (Function.update s.phase i phase j))
    (Finset.mem_univ i)
  have others : ∑ j ∈ Finset.univ.erase i,
      t.multiplicity j key * t.held j (Function.update s.phase i phase j) =
      ∑ j ∈ Finset.univ.erase i, t.multiplicity j key * t.held j (s.phase j) :=
    Finset.sum_congr rfl fun j member => by
      rw [Function.update_of_ne (Finset.ne_of_mem_erase member)]
  have start := balanced key
  simp only [Function.update_self] at new
  simp only [LifeState.move] at *
  linarith

/-- A connect error at this point is retried. -/
def retries : Phase → Bool
  | .sending attempt => shouldRetryConnect attempt t.retry
  | _ => true

/-- The event neither loses the reservation nor makes one that meets a counter twice. -/
def Releases (s : LifeState Request) (label : Request × Event) : Prop :=
  match label.2 with
  | .reserve => (counterKeys (t.reservation label.1).policies).Nodup
  | .connectError => t.retries (s.phase label.1) = true
  | .raise => False
  | .abandonStream => False
  | _ => True

omit [Fintype Request] in
instance (s : LifeState Request) : (label : Request × Event) → Decidable (t.Releases s label)
  | (_, .reserve) => inferInstanceAs (Decidable (List.Nodup _))
  | (_, .connectError) => inferInstanceAs (Decidable (_ = true))
  | (_, .raise) | (_, .abandonStream) => isFalse id
  | (_, .resolve) | (_, .answer _) | (_, .readError) | (_, .iterate) | (_, .finishStream)
  | (_, .computeCost _) | (_, .reconcile) => isTrue trivial

/-- Every request that has ended was reconciled exactly once, and every request that has
    arrived meets each counter once. -/
structure Released (s : LifeState Request) : Prop where
  once : ∀ i recorded reconciliations, s.phase i = .ended recorded reconciliations →
    reconciliations = 1
  distinct : ∀ i, s.phase i = .arrived ∨ (counterKeys (t.reservation i).policies).Nodup

omit [Fintype Request] in
theorem released_step [DecidableEq Request] {s s' : LifeState Request}
    {label : Request × Event} (released : t.Released s) (releases : t.Releases s label)
    (stepped : t.machine.step s label = some s') : t.Released s' := by
  obtain ⟨phase, nextPhase, rfl⟩ := Option.map_eq_some_iff.mp stepped
  obtain ⟨i, event⟩ := label
  refine ⟨fun j recorded reconciliations ended => ?_, fun j => ?_⟩
  · by_cases other : j = i
    · subst other
      obtain rfl : phase = .ended recorded reconciliations := by
        simpa [LifeState.move] using ended
      obtain once | rfl | rfl | ⟨attempt, at_, rfl, exhausted⟩ := t.next_ended nextPhase
      · exact once
      · exact releases.elim
      · exact releases.elim
      · simp [Releases, retries, at_, exhausted] at releases
    · exact released.once j recorded reconciliations (by
        simpa [LifeState.move, Function.update_of_ne other] using ended)
  · by_cases other : j = i
    · subst other
      obtain arrived | distinct := released.distinct j
      · -- the only event of a request that has arrived is its admission
        rw [arrived] at nextPhase
        cases event <;> first | exact Or.inr releases | cases nextPhase
      · exact Or.inr distinct
    · simpa [LifeState.move, Function.update_of_ne other] using released.distinct j

/-- The counter holds what it held before, and the recorded costs of the requests that
    matched it; each reservation was reconciled exactly once. -/
def Settled (before : CounterKey → Usd) (s : LifeState Request) : Prop :=
  (∀ key, s.counters key = before key +
    ∑ i, if key ∈ counterKeys (t.reservation i).policies then (s.phase i).recorded else 0) ∧
  ∀ i, s.phase i ≠ .arrived → ∃ recorded, s.phase i = .ended recorded 1

theorem settled_of_released {before : CounterKey → Usd} {s : LifeState Request}
    (balanced : t.Balanced before s) (released : t.Released s)
    (complete : ∀ i, s.phase i = .arrived ∨ ∃ recorded reconciliations,
      s.phase i = .ended recorded reconciliations) : t.Settled before s := by
  refine ⟨fun key => ?_, fun i present => ?_⟩
  · rw [balanced key]
    refine congrArg _ (Finset.sum_congr rfl fun i _ => ?_)
    obtain arrived | ⟨recorded, reconciliations, ended⟩ := complete i
    · simp [held, arrived, Phase.reserved, Phase.recorded]
    · obtain rfl := released.once i _ _ ended
      -- each counter occurs once among the policies, so the recorded cost is added once
      have distinct := (released.distinct i).resolve_left (by rw [ended]; exact nofun)
      simp only [held, ended, Phase.reserved, Phase.recorded, multiplicity]
      rw [List.Nodup.count distinct]
      split <;> simp
  · obtain ⟨recorded, reconciliations, ended⟩ := (complete i).resolve_left present
    exact ⟨recorded, by rw [ended, released.once i _ _ ended]⟩

/-- No leaked reservation: when every request is complete, in a run without a leaking exit. -/
theorem reservations_settled [DecidableEq Request] (before : CounterKey → Usd)
    (schedule : List (Request × Event)) (s : LifeState Request)
    (releases : t.machine.Guarded t.Releases (start before) schedule)
    (ran : t.machine.run (start before) schedule = some s)
    (complete : ∀ i, s.phase i = .arrived ∨ ∃ recorded reconciliations,
      s.phase i = .ended recorded reconciliations) : t.Settled before s := by
  -- the accounting holds in every run, the release only in a guarded one
  have balanced : t.Balanced before s :=
    t.machine.run_invariant (fun _ _ _ balanced stepped => t.balanced_step balanced stepped)
      (fun key => by simp [start, held, Phase.reserved, Phase.recorded]) ran
  have preserves : t.machine.Preserves t.Releases t.Released :=
    fun _ _ _ released releases stepped => t.released_step released releases stepped
  have released : t.Released s :=
    preserves.run t.machine ⟨fun _ _ _ ended => by simp [start] at ended, fun _ => Or.inl rfl⟩
      releases ran
  exact t.settled_of_released balanced released complete

end Traffic

section OneRequest

def teamPolicy : BudgetPolicy :=
  { name := "team-monthly", scope := "team", target := "ml", limitUsd := 100, period := "monthly" }

def oneRequest : Traffic Unit where
  reservation _ := ⟨2, [(teamPolicy, 0)], by decide +kernel, List.cons_ne_nil _ _⟩
  streaming _ := false
  retry := none

/-- The upstream cannot be reached, so the handler re-raises and nothing is refunded. -/
theorem connect_error_leaks :
    ∃ s, oneRequest.machine.run (Traffic.start fun _ => 0)
        [((), .reserve), ((), .resolve), ((), .connectError)] = some s ∧
      (∀ i, s.phase i = .ended 0 0) ∧ ¬ oneRequest.Settled (fun _ => 0) s := by
  refine ⟨_, rfl, fun _ => rfl, fun settled => ?_⟩
  obtain ⟨recorded, ended⟩ := settled.2 () (by simp [LifeState.move])
  simp [LifeState.move] at ended

def answeredRequest : List (Unit × Event) :=
  [((), .reserve), ((), .resolve), ((), .answer 200), ((), .computeCost 1), ((), .reconcile)]

theorem answered_request_settled :
    ∃ s, oneRequest.machine.run (Traffic.start fun _ => 0) answeredRequest = some s ∧
      oneRequest.Settled (fun _ => 0) s :=
  ⟨_, rfl, oneRequest.reservations_settled (fun _ => 0) answeredRequest _ (by decide +kernel) rfl
    (fun _ => Or.inr ⟨_, _, rfl⟩)⟩

end OneRequest

end BurnLens.Budget
