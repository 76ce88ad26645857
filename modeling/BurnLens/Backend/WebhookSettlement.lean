import BurnLens.Backend.Webhook

/-! # What becomes of a billing webhook

The dedup insert lets one delivery of an event run its handler.  If that delivery lives to close
the event, the row of the event says what became of it: the handler has run to its end, with
each of its writes done once, or an error is recorded.
-/

namespace BurnLens.Backend

open Library

/-! ## How often a handler writes the workspace -/

/-- Every run of the handler that comes to its end writes the workspace `n` times, and none
    more often. -/
def Performs {α : Type} : Handling α → Nat → Prop
  | .done _, n => n = 0
  | .raised _, _ => True
  | .await op next, n =>
    if op.writes then
      (∃ m, n = m + 1 ∧ ∀ reply, Performs (next (.ok reply)) m) ∧
        ∀ error, next (.error error) = .raised error
    else ∀ answer, Performs (next answer) n

def countOf (writes : Except PyError Json) : Nat :=
  match writes with
  | .ok id => if id.truthy then 1 else 0
  | .error _ => 0

/-- How often the handler of an event writes the workspace. -/
def PaddleEvent.updates (event : PaddleEvent) : Nat :=
  let type := event.eventType
  if type = "subscription.activated" ∨ type = "subscription.trialing" then
    countOf (workspaceIdOf event.data)
  else if type = "subscription.updated" then 1
  else if type = "subscription.canceled" ∨ type = "subscription.paused" then 1
  else if type = "transaction.payment_failed" then countOf (failedSubscription event.data)
  else 0

section

variable {α β : Type} {p : Handling α} {f : α → Handling β} {m n : Nat} {op : BillingOp}

theorem Performs.bind (first : Performs p m) (rest : ∀ a, Performs (f a) n) :
    Performs (p >>= f) (m + n) := by
  induction p generalizing m with
  | done a =>
    cases first
    rw [Nat.zero_add]
    exact rest a
  | raised error => trivial
  | await op next inductionHypothesis =>
    rw [Program.await_bind]
    unfold Performs at first ⊢
    split at first
    · rename_i writes
      obtain ⟨⟨k, rfl, replies⟩, errors⟩ := first
      rw [if_pos writes]
      refine ⟨⟨k + n, by omega, fun reply => inductionHypothesis _ (replies reply)⟩, ?_⟩
      intro error
      show next (.error error) >>= f = _
      rw [errors error]
      rfl
    · rename_i reads
      rw [if_neg reads]
      exact fun answer => inductionHypothesis answer (first answer)

theorem Performs.raising_bind {x : Except PyError α}
    (rest : ∀ a, x = .ok a → Performs (f a) n) : Performs (raising x >>= f) n := by
  cases x with
  | ok a => exact rest a rfl
  | error error => trivial

theorem Performs.then (first : Performs p 0) (rest : ∀ a, Performs (f a) n) :
    Performs (p >>= f) n := by
  have both := first.bind rest
  rwa [Nat.zero_add] at both

theorem Performs.read (reads : op.writes = false) : Performs op.call 0 := by
  simp only [BillingOp.call, Performs, reads, Bool.false_eq_true, if_false]
  intro answer
  cases answer <;> simp [Performs]

theorem Performs.attempt (reads : op.writes = false) : Performs op.attempt 0 := by
  simp only [BillingOp.attempt, Performs, reads, Bool.false_eq_true, if_false]
  intro answer
  cases answer <;> simp [Performs]

theorem Performs.write_call (writes : op.writes = true) : Performs op.call 1 := by
  simp [BillingOp.call, Performs, writes]

theorem Performs.write {g : op.Reply → Handling β} (writes : op.writes = true)
    (rest : ∀ reply, Performs (g reply) 0) : Performs (op.call >>= g) 1 :=
  (Performs.write_call writes).bind rest

theorem Performs.done (a : α) : Performs (.done a : Handling α) 0 := rfl

end

variable (services : PaddleServices) (data : Json)

theorem planFromPriceId_performs (priceId : Json) :
    Performs (planFromPriceId services priceId) 0 := by
  cases priceId with
  | str priceId =>
    simp only [planFromPriceId]
    split
    · exact .done _
    · apply Performs.then (.read rfl)
      intro plan
      cases plan with
      | some plan => exact .done _
      | none =>
        simp only
        split_ifs <;> exact .done _
  | _ => trivial

theorem subscriptionColumns_performs : Performs (subscriptionColumns services data) 0 := by
  apply Performs.raising_bind
  intro status _
  apply Performs.then (planFromPriceId_performs services _)
  intro plan
  apply Performs.raising_bind
  intro price _
  exact .done _

theorem handleSubscriptionActivated_performs :
    Performs (handleSubscriptionActivated services data) (countOf (workspaceIdOf data)) := by
  apply Performs.raising_bind
  intro workspaceId its
  apply Performs.raising_bind
  intro customerId _
  apply Performs.raising_bind
  intro subscriptionId _
  apply Performs.then (subscriptionColumns_performs services data)
  rintro ⟨status, columns⟩
  simp only [countOf, its]
  split
  · rename_i missing
    rw [if_neg (by simpa using missing)]
    exact .done _
  · rename_i there
    rw [if_pos (by simpa using there)]
    apply Performs.raising_bind
    intro customer _
    apply Performs.raising_bind
    intro subscription _
    apply Performs.raising_bind
    intro status _
    apply Performs.raising_bind
    intro workspaceId _
    apply Performs.write rfl
    intro _
    split
    · exact Performs.then (.attempt rfl) fun _ => .done _
    · exact .done _

theorem handleSubscriptionUpdated_performs :
    Performs (handleSubscriptionUpdated services data) 1 := by
  apply Performs.raising_bind
  intro subscriptionId _
  apply Performs.then (subscriptionColumns_performs services data)
  rintro ⟨status, columns⟩
  apply Performs.raising_bind
  intro subscription _
  apply Performs.raising_bind
  intro status _
  apply Performs.write rfl
  intro _
  split
  · apply Performs.then (.attempt rfl)
    intro workspace
    split
    · exact Performs.then (.attempt rfl) fun _ => .done _
    · exact .done _
  · exact .done _

theorem handleSubscriptionCanceled_performs :
    Performs (handleSubscriptionCanceled services data) 1 := by
  apply Performs.raising_bind
  intro subscriptionId _
  apply Performs.raising_bind
  intro subscription _
  exact .write_call rfl

theorem handlePaymentFailed_performs :
    Performs (handlePaymentFailed services data) (countOf (failedSubscription data)) := by
  apply Performs.raising_bind
  intro subscriptionId its
  simp only [countOf, its]
  split
  · rename_i missing
    rw [if_neg (by simpa using missing)]
    exact .done _
  · rename_i there
    rw [if_pos (by simpa using there)]
    apply Performs.raising_bind
    intro subscription _
    exact .write_call rfl

theorem transactionWorkspace_performs (workspaceId subscriptionId : Json) :
    Performs (transactionWorkspace services workspaceId subscriptionId) 0 := by
  have rest : ∀ byId : Option Str, Performs (if byId.isNone ∧ subscriptionId.truthy then do
      (BillingOp.workspaceOf (← raising (idHash services subscriptionId))).call
      else return byId) 0 := by
    intro byId
    split
    · apply Performs.raising_bind
      exact fun _ _ => .read rfl
    · exact .done _
  simp only [transactionWorkspace]
  split
  · apply Performs.raising_bind
    intro workspaceId _
    exact Performs.then (.read rfl) rest
  · exact Performs.then (.done _) rest

theorem handleTransactionCompleted_performs :
    Performs (handleTransactionCompleted services data) 0 := by
  apply Performs.raising_bind
  intro subscriptionId _
  apply Performs.raising_bind
  intro workspaceId _
  apply Performs.then (transactionWorkspace_performs services workspaceId subscriptionId)
  intro workspace
  split
  · exact Performs.then (.attempt rfl) fun _ => .done _
  · exact .done _

theorem handleApiKeyLifecycle_performs :
    Performs (handleApiKeyLifecycle services data) 0 := by
  apply Performs.raising_bind
  intro key _
  split
  · simp only
    split
    · exact .read rfl
    · exact .done _
  · trivial

/-- A handler writes the workspace as often as its event says, in every run that comes to
    its end. -/
theorem handler_performs (event : PaddleEvent) :
    Performs (handler services event) event.updates := by
  unfold handler PaddleEvent.updates
  simp only
  split_ifs
  · exact handleSubscriptionActivated_performs services event.data
  · exact handleSubscriptionUpdated_performs services event.data
  · exact handleSubscriptionCanceled_performs services event.data
  · exact handlePaymentFailed_performs services event.data
  · exact handleTransactionCompleted_performs services event.data
  · exact handleApiKeyLifecycle_performs services event.data
  · exact .done _

/-! ## The invariant -/

/-- The delivery that runs the handler of an event, or closes the event. -/
def holds (eventId : Str) (event : PaddleEvent) : Delivery → Nat
  | .handling _ | .closing | .failing _ => if event.eventId = eventId then 1 else 0
  | _ => 0

/-- What is known of a delivery; `updates` is what the events of an id write. -/
def Delivery.Fits (updates : Str → Nat) (w : BillingWorld) (event : PaddleEvent) : Delivery → Prop
  | .deduping | .failing _ => True
  | .answered status => status = 200 → w.recorded event.eventId = true
  | .handling p => (∃ n, Performs p n ∧
      w.effects.count event.eventId + n = updates event.eventId) ∧
      ∀ row ∈ w.events, row.event.eventId = event.eventId → row.processed = false
  | .closing => w.effects.count event.eventId = updates event.eventId

/-- What is known of the row of an event, which has `holders` deliveries at work. -/
structure PaddleRow.Fits (updates : Str → Nat) (w : BillingWorld) (holders : Nat)
    (row : PaddleRow) : Prop where
  bounded : w.effects.count row.event.eventId ≤ updates row.event.eventId
  complete : row.processed = true →
    w.effects.count row.event.eventId = updates row.event.eventId
  settled : row.processed = true ∨ row.error.isSome ∨ 1 ≤ holders

structure WebhookInvariant (updates : Str → Nat) (s : WebhookState) : Prop where
  once : ∀ id, total (holds id) s.calls ≤ 1
  unrecorded : ∀ id, s.world.recorded id = false →
    total (holds id) s.calls = 0 ∧ s.world.effects.count id = 0
  fits : s.Each fun w event phase =>
    event.updates = updates event.eventId ∧ phase.Fits updates w event
  rows : ∀ row ∈ s.world.events,
    row.Fits updates s.world (total (holds row.event.eventId) s.calls)

/-- No delivery that was recorded gives up: the dedup insert does not lose its answer, and the
    update that records an error succeeds. -/
def closesItsEvent (w : BillingWorld) (_ : PaddleEvent) : Delivery → Prop
  | .deduping => w.health ≠ .lost
  | .failing _ => w.health = .up
  | _ => True

instance (w : BillingWorld) (event : PaddleEvent) :
    (phase : Delivery) → Decidable (closesItsEvent w event phase)
  | .deduping => inferInstanceAs (Decidable (w.health ≠ .lost))
  | .failing _ => inferInstanceAs (Decidable (w.health = .up))
  | .handling _ | .closing | .answered _ => inferInstanceAs (Decidable True)

variable {updates : Str → Nat} {s : WebhookState} {w : BillingWorld} {k : Nat}
  {event : PaddleEvent} {phase next : Delivery}

theorem WebhookInvariant.alone (invariant : WebhookInvariant updates s)
    (found : s.calls[k]? = some (event, phase)) (working : holds event.eventId event phase = 1)
    {other : PaddleEvent} {phase' : Delivery} {j : Nat} (apart : j ≠ k)
    (there : s.calls[j]? = some (other, phase')) : holds event.eventId other phase' = 0 := by
  have both := add_le_total (holds event.eventId) found there apart
  have once := invariant.once event.eventId
  omega

theorem WebhookInvariant.recorded (invariant : WebhookInvariant updates s)
    (found : s.calls[k]? = some (event, phase)) (working : holds event.eventId event phase = 1) :
    s.world.recorded event.eventId = true := by
  by_contra missing
  have none := (invariant.unrecorded event.eventId (by simpa using missing)).1
  have one := part_le_total (holds event.eventId) (List.mem_of_getElem? found)
  omega

/-- What is known of a delivery stays known where nothing was done for its event. -/
theorem Delivery.Fits.other {other : PaddleEvent} {phase' : Delivery} {w' : BillingWorld}
    (fits : phase'.Fits updates w other)
    (count : w'.effects.count other.eventId = w.effects.count other.eventId)
    (rows : ∀ row ∈ w'.events, row.event.eventId = other.eventId → row ∈ w.events)
    (recorded : w.recorded other.eventId = true → w'.recorded other.eventId = true) :
    phase'.Fits updates w' other := by
  cases phase' with
  | handling p =>
    rw [Delivery.Fits, count]
    exact ⟨fits.1, fun row member its => fits.2 row (rows row member its) its⟩
  | closing =>
    rw [Delivery.Fits, count]
    exact fits
  | answered status => exact fun ok => recorded (fits ok)
  | deduping => trivial
  | failing => trivial

/-- Of a delivery that is not at work, it is known at most that its event is recorded. -/
theorem Delivery.Fits.of_idle {other : PaddleEvent} {phase' : Delivery} {w' : BillingWorld}
    (fits : phase'.Fits updates w other) (idle : holds other.eventId other phase' = 0)
    (recorded : w.recorded other.eventId = true → w'.recorded other.eventId = true) :
    phase'.Fits updates w' other := by
  cases phase' with
  | answered status => exact fun ok => recorded (fits ok)
  | deduping => trivial
  | handling p => simp [holds] at idle
  | closing => simp [holds] at idle
  | failing error => trivial

theorem total_holds (found : s.calls[k]? = some (event, phase)) {next : Delivery}
    (holding : ∀ id, holds id event next = holds id event phase) (id : Str) :
    total (holds id) (s.calls.set k (event, next)) = total (holds id) s.calls := by
  have moved := total_set (holds id) found next
  rw [holding] at moved
  exact add_right_cancel moved

/-- Where the calls change, but neither an event nor what it wrote. -/
theorem WebhookInvariant.idle (invariant : WebhookInvariant updates s)
    (found : s.calls[k]? = some (event, phase)) (events : w.events = s.world.events)
    (effects : w.effects = s.world.effects)
    (holding : ∀ id, holds id event next = holds id event phase)
    (fits : next.Fits updates w event) :
    WebhookInvariant updates ⟨w, s.calls.set k (event, next)⟩ := by
  have recorded : ∀ id, w.recorded id = s.world.recorded id := by
    intro id
    rw [BillingWorld.recorded, events, ← BillingWorld.recorded]
  constructor
  · intro id
    rw [total_holds found holding]
    exact invariant.once id
  · intro id missing
    simp only [recorded, effects, total_holds found holding] at missing ⊢
    exact invariant.unrecorded id missing
  · refine .set ⟨(invariant.fits.at found).1, fits⟩ fun j other phase' apart there => ?_
    obtain ⟨known, their⟩ := invariant.fits.at there
    refine ⟨known, their.other (by rw [effects]) (fun row member _ => ?_) fun there => ?_⟩
    · rwa [events] at member
    · rwa [recorded]
  · intro row member
    rw [events] at member
    obtain ⟨bounded, complete, settled⟩ := invariant.rows row member
    rw [total_holds found holding]
    exact ⟨by rwa [effects], by rwa [effects], settled⟩

/-- The dedup insert of a new event: this delivery runs the handler. -/
theorem WebhookInvariant.record (invariant : WebhookInvariant updates s)
    (found : s.calls[k]? = some (event, .deduping))
    (missing : s.world.recorded event.eventId = false)
    (holding : ∀ id, holds id event next = if event.eventId = id then 1 else 0)
    (fits : next.Fits updates (s.world.record event) event) :
    WebhookInvariant updates ⟨s.world.record event, s.calls.set k (event, next)⟩ := by
  have moved : ∀ id, total (holds id) (s.calls.set k (event, next)) =
      total (holds id) s.calls + if event.eventId = id then 1 else 0 := by
    intro id
    rw [← holding id, ← total_set (holds id) found next]
    rfl
  have untouched := invariant.unrecorded event.eventId missing
  have events : (s.world.record event).events = s.world.events ++ [⟨event, false, none⟩] := by
    rw [BillingWorld.record, missing]
    rfl
  have effects : (s.world.record event).effects = s.world.effects := by
    rw [BillingWorld.record, missing]
    rfl
  constructor
  · intro id
    rw [moved]
    split
    · rename_i its
      subst its
      omega
    · exact invariant.once id
  · intro id absent
    have before : s.world.recorded id = false ∧ event.eventId ≠ id := by
      simpa [BillingWorld.recorded, events] using absent
    rw [moved, if_neg before.2, effects]
    exact invariant.unrecorded id before.1
  · refine .set ⟨(invariant.fits.at found).1, fits⟩ fun j other phase' apart there => ?_
    obtain ⟨known, their⟩ := invariant.fits.at there
    have kept : s.world.recorded other.eventId = true →
        (s.world.record event).recorded other.eventId = true := by
      intro its
      simp only [BillingWorld.recorded, events, List.any_append, Bool.or_eq_true]
      exact Or.inl its
    refine ⟨known, ?_⟩
    by_cases same : other.eventId = event.eventId
    · have idle : holds other.eventId other phase' = 0 := by
        have bounded := part_le_total (holds other.eventId) (List.mem_of_getElem? there)
        rw [same, untouched.1] at bounded
        rw [same]
        exact Nat.le_zero.mp bounded
      exact their.of_idle idle kept
    · refine their.other (by rw [effects]) (fun row member its => ?_) kept
      rw [events] at member
      obtain old | new := List.mem_append.mp member
      · exact old
      · obtain rfl := List.mem_singleton.mp new
        exact absurd its.symm same
  · intro row member
    rw [events] at member
    obtain old | new := List.mem_append.mp member
    · obtain ⟨bounded, complete, settled⟩ := invariant.rows row old
      refine ⟨by rwa [effects], by rwa [effects], ?_⟩
      rw [moved]
      obtain processed | error | working := settled
      · exact Or.inl processed
      · exact Or.inr (Or.inl error)
      · exact Or.inr (Or.inr (by omega))
    · obtain rfl := List.mem_singleton.mp new
      have none' : s.world.effects.count event.eventId = 0 := untouched.2
      refine ⟨?_, fun processed => (by cases processed), Or.inr (Or.inr ?_)⟩
      · rw [effects, none']
        exact Nat.zero_le _
      · rw [moved, if_pos rfl]
        omega

theorem WebhookInvariant.write (invariant : WebhookInvariant updates s) {p : Handling Unit}
    (found : s.calls[k]? = some (event, .handling p)) (events : w.events = s.world.events)
    (effects : w.effects = s.world.effects ++ [event.eventId])
    (room : s.world.effects.count event.eventId + 1 ≤ updates event.eventId)
    (holding : ∀ id, holds id event next = if event.eventId = id then 1 else 0)
    (fits : next.Fits updates w event) :
    WebhookInvariant updates ⟨w, s.calls.set k (event, next)⟩ := by
  have recorded : ∀ id, w.recorded id = s.world.recorded id := by
    intro id
    rw [BillingWorld.recorded, events, ← BillingWorld.recorded]
  have its := invariant.recorded found (by simp [holds])
  have unprocessed := (invariant.fits.at found).2.2
  have counts : ∀ id, id ≠ event.eventId → w.effects.count id = s.world.effects.count id := by
    intro id other
    rw [effects, List.count_append, List.count_singleton, beq_false_of_ne (Ne.symm other)]
    rfl
  have own : w.effects.count event.eventId = s.world.effects.count event.eventId + 1 := by
    rw [effects, List.count_append, List.count_singleton_self]
  constructor
  · intro id
    rw [total_holds found holding]
    exact invariant.once id
  · intro id missing
    rw [recorded] at missing
    have other : id ≠ event.eventId := by
      rintro rfl
      rw [its] at missing
      cases missing
    rw [total_holds found holding, counts id other]
    exact invariant.unrecorded id missing
  · refine .set ⟨(invariant.fits.at found).1, fits⟩ fun j other phase' apart there => ?_
    obtain ⟨known, their⟩ := invariant.fits.at there
    refine ⟨known, ?_⟩
    by_cases same : other.eventId = event.eventId
    · have idle := invariant.alone found (by simp [holds]) apart there
      rw [← same] at idle
      exact their.of_idle idle fun there => by rwa [recorded]
    · refine their.other (counts _ same) (fun row member _ => ?_) fun there => by rwa [recorded]
      rwa [events] at member
  · intro row member
    rw [events] at member
    obtain ⟨bounded, complete, settled⟩ := invariant.rows row member
    rw [total_holds found holding]
    by_cases same : row.event.eventId = event.eventId
    · have untouched := unprocessed row member same
      refine ⟨by rw [same, own]; exact room, fun processed => ?_, settled⟩
      rw [untouched] at processed
      cases processed
    · exact ⟨by rwa [counts _ same], by rwa [counts _ same], settled⟩

/-- The row of the event is closed: what was known of its writes says what may be recorded. -/
theorem WebhookInvariant.mark (invariant : WebhookInvariant updates s)
    (found : s.calls[k]? = some (event, phase))
    (working : ∀ id, holds id event phase = if event.eventId = id then 1 else 0)
    (fewer : ∀ id, holds id event next ≤ holds id event phase)
    (change : PaddleRow → PaddleRow) (keeps : ∀ row, (change row).event = row.event)
    (settles : ∀ row, (change row).processed = true ∨ (change row).error.isSome)
    (processes : ∀ row, (change row).processed = true → row.processed = true ∨
      s.world.effects.count event.eventId = updates event.eventId)
    (fits : next.Fits updates (s.world.updateEvent event.eventId change) event) :
    WebhookInvariant updates
      ⟨s.world.updateEvent event.eventId change, s.calls.set k (event, next)⟩ := by
  have at_most : ∀ id, total (holds id) (s.calls.set k (event, next)) ≤
      total (holds id) s.calls := by
    intro id
    have moved := total_set (holds id) found next
    have less := fewer id
    omega
  have elsewhere : ∀ id, event.eventId ≠ id →
      total (holds id) (s.calls.set k (event, next)) = total (holds id) s.calls := by
    intro id apart
    have moved := total_set (holds id) found next
    have none := working id
    rw [if_neg apart] at none
    have less := fewer id
    omega
  constructor
  · exact fun id => (at_most id).trans (invariant.once id)
  · intro id missing
    rw [updateEvent_recorded keeps] at missing
    obtain ⟨none, count⟩ := invariant.unrecorded id missing
    exact ⟨Nat.le_zero.mp (none ▸ at_most id), count⟩
  · refine .set ⟨(invariant.fits.at found).1, fits⟩ fun j other phase' apart there => ?_
    obtain ⟨known, their⟩ := invariant.fits.at there
    refine ⟨known, ?_⟩
    have kept : s.world.recorded other.eventId = true →
        (s.world.updateEvent event.eventId change).recorded other.eventId = true := by
      intro its
      rwa [updateEvent_recorded keeps]
    by_cases same : other.eventId = event.eventId
    · have mine : holds event.eventId event phase = 1 := by rw [working, if_pos rfl]
      have idle := invariant.alone found mine apart there
      rw [← same] at idle
      exact their.of_idle idle kept
    · refine their.other rfl (fun row member its => ?_) kept
      obtain ⟨old, there, rfl⟩ := List.mem_map.mp member
      by_cases closed : old.event.eventId = event.eventId
      · rw [if_pos closed, keeps] at its
        exact absurd (its.symm.trans closed) same
      · rwa [if_neg closed]
  · intro row member
    obtain ⟨old, there, rfl⟩ := List.mem_map.mp member
    obtain ⟨bounded, complete, settled⟩ := invariant.rows old there
    split
    · rename_i closed
      refine ⟨by rwa [keeps], fun processed => ?_, ?_⟩
      · rw [keeps]
        obtain before | all := processes old processed
        · exact complete before
        · rw [closed]
          exact all
      · obtain processed | error := settles old
        · exact Or.inl processed
        · exact Or.inr (Or.inl error)
    · rename_i open_
      rw [elsewhere _ (Ne.symm open_)]
      exact ⟨bounded, complete, settled⟩

/-! ## One statement -/

theorem holds_after (p : Handling Unit) (id : Str) :
    holds id event (.after p) = if event.eventId = id then 1 else 0 := by
  cases p <;> rfl

theorem Delivery.after_fits {p : Handling Unit} {n : Nat} (performs : Performs p n)
    (so_far : w.effects.count event.eventId + n = updates event.eventId)
    (rows : ∀ row ∈ w.events, row.event.eventId = event.eventId → row.processed = false) :
    (Delivery.after p).Fits updates w event := by
  cases p with
  | done a =>
    cases performs
    exact so_far
  | raised error => trivial
  | await op next => exact ⟨⟨n, performs, so_far⟩, rows⟩

theorem answer_reads {op : BillingOp} (reads : op.writes = false) (id : Str) :
    (w.answer services id op).1.events = w.events ∧
      (w.answer services id op).1.effects = w.effects := by
  simp only [BillingWorld.answer, reads, Bool.false_eq_true, if_false]
  cases w.health
  · exact execute_events
  · exact ⟨rfl, rfl⟩
  · exact execute_events

/-- A statement that writes for the handler: done, or not done and refused. -/
theorem answer_writes {op : BillingOp} (writes : op.writes = true) (id : Str) :
    (w.answer services id op).1.events = w.events ∧
      ((w.answer services id op).1.effects = w.effects ++ [id] ∨
        (w.answer services id op).1.effects = w.effects ∧
          (w.answer services id op).2 = .error .databaseError) := by
  obtain ⟨events, effects⟩ := execute_events
  simp only [BillingWorld.answer, writes, if_true]
  cases w.health
  · exact ⟨events, Or.inl (congrArg (· ++ [id]) effects)⟩
  · exact ⟨rfl, Or.inr ⟨rfl, rfl⟩⟩
  · exact ⟨events, Or.inl (congrArg (· ++ [id]) effects)⟩

theorem WebhookInvariant.handle (invariant : WebhookInvariant updates s) {op : BillingOp}
    {rest : op.Answer → Handling Unit}
    (found : s.calls[k]? = some (event, .handling (.await op rest))) :
    WebhookInvariant updates ⟨(s.world.answer services event.eventId op).1,
      s.calls.set k (event,
        .after (rest (s.world.answer services event.eventId op).2))⟩ := by
  obtain ⟨⟨n, performs, so_far⟩, rows⟩ := (invariant.fits.at found).2
  unfold Performs at performs
  split at performs
  · rename_i writes
    obtain ⟨⟨m, rfl, replies⟩, errors⟩ := performs
    obtain ⟨events, written | ⟨unwritten, refused⟩⟩ :=
      answer_writes (w := s.world) services writes event.eventId
    · apply invariant.write found events written (by omega) (holds_after _)
      rcases answered : (s.world.answer services event.eventId op).2 with error | reply
      · rw [errors]
        trivial
      · apply Delivery.after_fits (replies reply)
        · rw [written, List.count_append, List.count_singleton_self]
          omega
        · rwa [events]
    · apply invariant.idle found events unwritten (holds_after _)
      rw [refused, errors]
      trivial
  · rename_i reads
    obtain ⟨events, effects⟩ :=
      answer_reads (w := s.world) services (by simpa using reads) event.eventId
    apply invariant.idle found events effects (holds_after _)
    apply Delivery.after_fits (performs _)
    · rw [effects]
      exact so_far
    · rwa [events]

theorem WebhookInvariant.dedup (invariant : WebhookInvariant updates s)
    (found : s.calls[k]? = some (event, .deduping))
    (missing : s.world.recorded event.eventId = false) :
    WebhookInvariant updates ⟨s.world.record event,
      s.calls.set k (event, .after (handler services event))⟩ := by
  apply invariant.record found missing (holds_after _)
  apply Delivery.after_fits (handler_performs services event)
  · rw [record_effects, (invariant.unrecorded _ missing).2, Nat.zero_add]
    exact (invariant.fits.at found).1
  · intro row member its
    rw [BillingWorld.record, missing] at member
    obtain old | new := List.mem_append.mp member
    · have there : s.world.recorded event.eventId = true := recorded_iff.mpr ⟨row, old, its⟩
      rw [missing] at there
      cases there
    · obtain rfl := List.mem_singleton.mp new
      rfl

theorem WebhookInvariant.advance (invariant : WebhookInvariant updates s)
    (found : s.calls[k]? = some (event, phase)) (meets : closesItsEvent s.world event phase)
    (went : s.world.deliver services event phase = some (w, next)) :
    WebhookInvariant updates ⟨w, s.calls.set k (event, next)⟩ := by
  cases phase with
  | answered status => cases went
  | deduping =>
    simp only [BillingWorld.deliver] at went
    cases health : s.world.health with
    | up =>
      simp only [health] at went
      split at went
      · rename_i there
        cases went
        exact invariant.idle found rfl rfl (fun _ => rfl) fun _ => there
      · rename_i missing
        cases went
        exact invariant.dedup services found (by simpa using missing)
    | down =>
      simp only [health] at went
      cases went
      exact invariant.idle found rfl rfl (fun _ => rfl) (by simp [Delivery.Fits])
    | lost => exact absurd health meets
  | handling p =>
    cases p with
    | await op rest =>
      cases went
      exact invariant.handle services found
    | done _ | raised _ => cases went
  | closing =>
    have there := invariant.recorded found (by simp [holds])
    have all : s.world.effects.count event.eventId = updates event.eventId :=
      (invariant.fits.at found).2
    simp only [BillingWorld.deliver] at went
    cases health : s.world.health with
    | up =>
      simp only [health] at went
      cases went
      refine invariant.mark found (fun _ => rfl) (fun _ => Nat.zero_le _)
        (fun row => { row with processed := true }) (fun _ => rfl) (fun _ => Or.inl rfl)
        (fun _ _ => Or.inr all) fun _ => ?_
      exact (markProcessed_recorded _ _).trans there
    | down =>
      simp only [health] at went
      cases went
      exact invariant.idle found rfl rfl (fun _ => rfl) trivial
    | lost =>
      simp only [health] at went
      cases went
      exact invariant.mark found (fun _ => rfl)
        (fun _ => (Nat.le_refl _ : holds _ event (.failing .databaseError) ≤ _)) (fun row => { row with processed := true }) (fun _ => rfl)
        (fun _ => Or.inl rfl) (fun _ _ => Or.inr all) trivial
  | failing error =>
    have health : s.world.health = .up := meets
    simp only [BillingWorld.deliver, health] at went
    cases went
    have there := invariant.recorded found (by simp [holds])
    refine invariant.mark found (fun _ => rfl) (fun _ => Nat.zero_le _)
      (fun row => { row with error := some error }) (fun _ => rfl) (fun _ => Or.inr rfl)
      (fun _ => Or.inl) fun _ => ?_
    exact (markError_recorded _ _ _).trans there

theorem WebhookInvariant.happen (invariant : WebhookInvariant updates s) (health : Health) :
    WebhookInvariant updates { s with world := { s.world with health } } :=
  ⟨invariant.once, invariant.unrecorded, fun event phase member =>
    let ⟨known, fits⟩ := invariant.fits event phase member
    ⟨known, fits.other rfl (fun _ member _ => member) id⟩,
    fun row member =>
      let ⟨bounded, complete, settled⟩ := invariant.rows row member
      ⟨bounded, complete, settled⟩⟩

theorem webhookInvariant_preserved : (webhookMachine services).Preserves
    (Fleet.Meets closesItsEvent fun _ _ => True) (WebhookInvariant updates) := by
  apply Routes.preserves
  · intro s k event phase w next invariant found meets went
    exact invariant.advance services found meets went
  · intro s health invariant _
    exact invariant.happen health

/-! ## Runs -/

/-- Nothing is recorded yet, and each delivery is about to record its event; an event may be
    delivered any number of times. -/
structure WebhookState.Fresh (s : WebhookState) : Prop where
  events : s.world.events = []
  effects : s.world.effects = []
  arriving : ∀ event phase, (event, phase) ∈ s.calls → phase = .deduping
  same : ∀ event phase event' phase', (event, phase) ∈ s.calls → (event', phase') ∈ s.calls →
    event.eventId = event'.eventId → event = event'

def WebhookState.updatesOf (s : WebhookState) (id : Str) : Nat :=
  ((s.calls.find? fun c => c.1.eventId = id).map fun c => c.1.updates).getD 0

theorem WebhookState.Fresh.updates_eq (fresh : s.Fresh) (member : (event, phase) ∈ s.calls) :
    event.updates = s.updatesOf event.eventId := by
  have there : (s.calls.find? fun c => c.1.eventId = event.eventId).isSome := by
    rw [List.find?_isSome]
    exact ⟨(event, phase), member, by simp⟩
  obtain ⟨⟨event', phase'⟩, found⟩ := Option.isSome_iff_exists.mp there
  have its : event'.eventId = event.eventId := by simpa using List.find?_some found
  have one := fresh.same _ _ _ _ (List.mem_of_find?_eq_some found) member its
  subst one
  rw [WebhookState.updatesOf, found]
  rfl

theorem WebhookInvariant.fresh (fresh : s.Fresh) : WebhookInvariant s.updatesOf s := by
  have none : ∀ id, total (holds id) s.calls = 0 := by
    intro id
    apply total_eq_zero
    intro event phase member
    cases fresh.arriving event phase member
    rfl
  constructor
  · intro id
    rw [none]
    exact Nat.zero_le 1
  · intro id _
    exact ⟨none id, by simp [fresh.effects]⟩
  · intro event phase member
    cases fresh.arriving event phase member
    exact ⟨fresh.updates_eq member, trivial⟩
  · intro row member
    rw [fresh.events] at member
    cases member

/-- No delivery of the event is between its dedup insert and its answer. -/
def WebhookState.Over (s : WebhookState) (eventId : Str) : Prop :=
  ∀ event phase, (event, phase) ∈ s.calls → holds eventId event phase = 0

/-- What became of an event that was answered 200. -/
structure Settled (w : BillingWorld) (event : PaddleEvent) (row : PaddleRow) : Prop where
  member : row ∈ w.events
  its : row.event.eventId = event.eventId
  marked : row.processed = true ∨ row.error.isSome
  processed : row.processed = true → w.effects.count event.eventId = event.updates
  atMost : w.effects.count event.eventId ≤ event.updates

theorem PaddleEvent.updates_le_one : event.updates ≤ 1 := by
  have counted : ∀ writes, countOf writes ≤ 1 := by
    intro writes
    unfold countOf
    split
    · split <;> omega
    · omega
  unfold PaddleEvent.updates
  simp only
  split_ifs
  · exact counted _
  · exact Nat.le_refl 1
  · exact Nat.le_refl 1
  · exact counted _
  · exact Nat.zero_le 1

theorem WebhookInvariant.settled (invariant : WebhookInvariant updates s)
    (answered : (event, .answered 200) ∈ s.calls) (done : s.Over event.eventId) :
    ∃ row, Settled s.world event row := by
  obtain ⟨known, there⟩ := invariant.fits event (.answered 200) answered
  obtain ⟨row, member, its⟩ := recorded_iff.mp (there rfl)
  obtain ⟨bounded, complete, settled⟩ := invariant.rows row member
  have none : total (holds event.eventId) s.calls = 0 := total_eq_zero done
  rw [its] at bounded complete settled
  refine ⟨row, member, its, ?_, ?_, ?_⟩
  · obtain processed | error | working := settled
    · exact Or.inl processed
    · exact Or.inr error
    · omega
  · rwa [known]
  · rwa [known]

/-- An event that was answered 200 is processed or in error: in every run in which no
    recorded delivery gives up before it has closed its event, an event with no delivery at work
    that was answered 200 has its writes done, each once, or has its error recorded, and then
    no write of it was done twice. -/
theorem webhook_settled (s s' : WebhookState) (labels : List WebhookLabel) (fresh : s.Fresh)
    (closes : (webhookMachine services).Guarded
      (Fleet.Meets closesItsEvent fun _ _ => True) s labels)
    (ran : (webhookMachine services).run s labels = some s') (event : PaddleEvent)
    (answered : (event, .answered 200) ∈ s'.calls) (done : s'.Over event.eventId) :
    event.updates ≤ 1 ∧ ∃ row, Settled s'.world event row :=
  ⟨PaddleEvent.updates_le_one,
    ((webhookInvariant_preserved services).run _ (.fresh fresh) closes ran).settled answered done⟩

/-! ## A cancellation -/

def cancellation : PaddleEvent :=
  ⟨"evt_1", "subscription.canceled", .obj [("id", .str "sub_1")]⟩

/-- A paid workspace, whose cancellation is delivered so many times. -/
def canceledTimes (n : Nat) : WebhookState where
  world := { workspaces := [{ id := "w", plan := "cloud", subscriptionHash := some "sub_1" }] }
  calls := List.replicate n (cancellation, .deduping)

theorem canceledTimes_fresh (n : Nat) : (canceledTimes n).Fresh := by
  constructor
  · rfl
  · rfl
  · intro event phase member
    cases List.eq_of_mem_replicate member
    rfl
  · intro event phase event' phase' member member' _
    cases List.eq_of_mem_replicate member
    cases List.eq_of_mem_replicate member'
    rfl

/-- The first delivery finds the database down, the second does the work, and the third is a
    duplicate. -/
theorem webhook_settled_cancellation :
    cancellation.updates ≤ 1 ∧ ∃ row, Settled (((webhookMachine cloudServices).run
      (canceledTimes 3) [.happen .down, .advance 0, .happen .up, .advance 1, .advance 1,
        .advance 2, .advance 1]).get (by rfl)).world cancellation row := by
  refine webhook_settled cloudServices (canceledTimes 3) _ _ (canceledTimes_fresh 3)
    (by decide +kernel) (Option.some_get _).symm cancellation ?_ ?_
  · exact List.mem_of_getElem? (i := 1) rfl
  · intro event phase member
    have three : (event, phase) ∈ [(cancellation, Delivery.answered 500),
      (cancellation, .answered 200), (cancellation, .answered 200)] := member
    simp only [List.mem_cons, Prod.mk.injEq, List.not_mem_nil, or_false] at three
    obtain ⟨rfl, rfl⟩ | ⟨rfl, rfl⟩ | ⟨rfl, rfl⟩ := three <;> rfl

/-- An error of the handler ends a cancellation: the delivery is answered 200, so is every
    later one, and the workspace stays on the paid plan. -/
theorem failed_cancellation_skipped :
    ¬ ∀ (services : PaddleServices) (s s' : WebhookState) (labels : List WebhookLabel), s.Fresh →
      (webhookMachine services).run s labels = some s' → ∀ event : PaddleEvent,
      (∀ other phase, (other, phase) ∈ s'.calls → phase = .answered 200) →
      (event, .answered 200) ∈ s'.calls →
      s'.world.effects.count event.eventId = event.updates := by
  intro claim
  have applied := claim cloudServices (canceledTimes 2) _
    [.advance 0, .happen .down, .advance 0, .happen .up, .advance 0, .advance 1]
    (canceledTimes_fresh 2) rfl cancellation (by
      intro event phase member
      have two : (event, phase) ∈ List.replicate 2 (cancellation, .answered 200) := member
      cases List.eq_of_mem_replicate two
      rfl) (List.mem_of_getElem? (i := 0) rfl)
  cases applied

end BurnLens.Backend
