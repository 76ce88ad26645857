import BurnLens.Backend.Webhook

/-! # A webhook delivery as a whole

What a delivery does to the workspaces when the database is healthy and nothing comes between
its statements: the one statement that its event says, or none.
-/

namespace BurnLens.Backend

open Library

/-! ## A delivery as a whole -/

section

variable (services : PaddleServices) {α β : Type}

def BillingWorld.handle (eventId : Str) : Handling α → BillingWorld → BillingWorld × Except PyError α
  | .done a, w => (w, .ok a)
  | .raised error, w => (w, .error error)
  | .await op next, w =>
    handle eventId (next (w.answer services eventId op).2) (w.answer services eventId op).1

def BillingWorld.receive (w : BillingWorld) (event : PaddleEvent) : BillingWorld :=
  if w.recorded event.eventId then w
  else
    match (w.record event).handle services event.eventId (handler services event) with
    | (w', .ok _) => w'.markProcessed event.eventId
    | (w', .error error) => w'.markError event.eventId error

variable {services} {w : BillingWorld} {eventId : Str} {event : PaddleEvent} {op : BillingOp}

theorem handle_bind (p : Handling α) (f : α → Handling β) :
    w.handle services eventId (p >>= f) =
      match w.handle services eventId p with
      | (w', .ok a) => w'.handle services eventId (f a)
      | (w', .error error) => (w', .error error) := by
  induction p generalizing w with
  | done a => rfl
  | raised error => rfl
  | await op next inductionHypothesis => exact inductionHypothesis _

theorem handle_health (p : Handling α) : (w.handle services eventId p).1.health = w.health := by
  induction p generalizing w with
  | done a => rfl
  | raised error => rfl
  | await op next inductionHypothesis =>
    rw [BillingWorld.handle, inductionHypothesis, answer_health]

theorem handle_events (p : Handling α) : (w.handle services eventId p).1.events = w.events := by
  induction p generalizing w with
  | done a => rfl
  | raised error => rfl
  | await op next inductionHypothesis =>
    rw [BillingWorld.handle, inductionHypothesis, answer_events]

theorem record_recorded (other : Str) :
    (w.record event).recorded other = (w.recorded other || other = event.eventId) := by
  rw [BillingWorld.record]
  split
  · rename_i there
    cases same : decide (other = event.eventId) with
    | true => rw [of_decide_eq_true same, there]; rfl
    | false => rw [Bool.or_false]
  · simp only [BillingWorld.recorded, List.any_append, List.any_cons, List.any_nil, Bool.or_false,
      eq_comm]

theorem receive_recorded (other : Str) :
    (w.receive services event).recorded other = (w.recorded other || other = event.eventId) := by
  unfold BillingWorld.receive
  split
  · rename_i there
    cases same : decide (other = event.eventId) with
    | true => rw [of_decide_eq_true same, there]; rfl
    | false => rw [Bool.or_false]
  · have events := @handle_events services _ (w.record event) event.eventId
      (handler services event)
    have recorded : ∀ w' : BillingWorld, w'.events = (w.record event).events →
        w'.recorded other = (w.recorded other || other = event.eventId) := by
      intro w' same
      rw [← record_recorded, BillingWorld.recorded, same, BillingWorld.recorded]
    split
    · rename_i went
      rw [went] at events
      exact (markProcessed_recorded _ other).trans (recorded _ events)
    · rename_i went
      rw [went] at events
      exact (markError_recorded _ other _).trans (recorded _ events)

theorem receive_health : (w.receive services event).health = w.health := by
  unfold BillingWorld.receive
  split
  · rfl
  · have kept := @handle_health services _ (w.record event) event.eventId (handler services event)
    rw [record_health] at kept
    split
    · rename_i went
      rw [went] at kept
      exact kept
    · rename_i went
      rw [went] at kept
      exact kept

/-! ## As a run of the webhook -/

variable {calls : List (PaddleEvent × Delivery)} {k : Nat} {phase next : Delivery} {w' : BillingWorld}

/-- A statement of the delivery `k`. -/
theorem run_advance (inside : k < calls.length)
    (went : w.deliver services event phase = some (w', next)) (n : Nat) :
    (webhookMachine services).run ⟨w, calls.set k (event, phase)⟩
        (List.replicate (n + 1) (.advance k)) =
      (webhookMachine services).run ⟨w', calls.set k (event, next)⟩
        (List.replicate n (.advance k)) := by
  have stepped : (webhookMachine services).step ⟨w, calls.set k (event, phase)⟩ (.advance k) =
      some ⟨w', calls.set k (event, next)⟩ := by
    have went' : (webhookRoutes services).advance w event phase = some (w', next) := went
    simp only [webhookMachine, Routes.machine, Fleet.step, List.getElem?_set_self inside,
      Option.bind_some, went', Option.map_some, List.set_set]
  rw [List.replicate_succ, Machine.run_cons, stepped]
  rfl

def Delivery.ofResult : Except PyError Unit → Delivery
  | .ok _ => .closing
  | .error error => .failing error

theorem handle_runs (inside : k < calls.length) (p : Handling Unit) :
    ∃ n, ∀ m, (webhookMachine services).run ⟨w, calls.set k (event, .after p)⟩
        (List.replicate (n + m) (.advance k)) =
      (webhookMachine services).run ⟨(w.handle services event.eventId p).1,
        calls.set k (event, .ofResult (w.handle services event.eventId p).2)⟩
        (List.replicate m (.advance k)) := by
  induction p generalizing w with
  | done a => exact ⟨0, fun m => by rw [Nat.zero_add]; rfl⟩
  | raised error => exact ⟨0, fun m => by rw [Nat.zero_add]; rfl⟩
  | await op rest inductionHypothesis =>
    obtain ⟨n, ran⟩ := @inductionHypothesis (w.answer services event.eventId op).2
      (w.answer services event.eventId op).1
    refine ⟨n + 1, fun m => ?_⟩
    have went : w.deliver services event (.handling (.await op rest)) =
        some ((w.answer services event.eventId op).1,
          .after (rest (w.answer services event.eventId op).2)) := rfl
    rw [Nat.add_right_comm]
    exact (run_advance inside went (n + m)).trans (ran m)

/-- A delivery as a whole is a run: the statements of one delivery after the other, with a
    healthy database. -/
theorem receive_runs (healthy : w.health = .up) (inside : k < calls.length) :
    ∃ n, (webhookMachine services).run ⟨w, calls.set k (event, .deduping)⟩
        (List.replicate n (.advance k)) =
      some ⟨w.receive services event, calls.set k (event, .answered 200)⟩ := by
  cases there : w.recorded event.eventId with
  | true =>
    have went : w.deliver services event .deduping = some (w, .answered 200) := by
      simp only [BillingWorld.deliver, healthy, there, if_true]
    refine ⟨1, ?_⟩
    rw [run_advance inside went, BillingWorld.receive, if_pos there]
    rfl
  | false =>
    have went : w.deliver services event .deduping =
        some (w.record event, .after (handler services event)) := by
      simp only [BillingWorld.deliver, healthy, there, Bool.false_eq_true, if_false]
    obtain ⟨n, ran⟩ := @handle_runs services (w.record event) event _ _ inside
      (handler services event)
    have kept := @handle_health services _ (w.record event) event.eventId (handler services event)
    rw [record_health, healthy] at kept
    refine ⟨n + 1 + 1, ?_⟩
    rw [run_advance inside went, ran, BillingWorld.receive, if_neg (by simp [there])]
    split
    · rename_i w' _ ended
      rw [ended] at kept ⊢
      have up : w'.health = .up := kept
      have closed : w'.deliver services event .closing =
          some (w'.markProcessed event.eventId, .answered 200) := by
        simp only [BillingWorld.deliver, up]
      exact run_advance inside closed 0
    · rename_i w' error ended
      rw [ended] at kept ⊢
      have up : w'.health = .up := kept
      have closed : w'.deliver services event (.failing error) =
          some (w'.markError event.eventId error, .answered 200) := by
        simp only [BillingWorld.deliver, up]
      exact run_advance inside closed 0

end

/-! ## What an event changes -/

/-- What a statement does to a row of `workspaces`. -/
def BillingOp.onRow : BillingOp → BillingRow → BillingRow
  | .activate workspaceId customer subscription columns, row =>
    if row.id = workspaceId then
      { row.subscribe columns with customerHash := customer, subscriptionHash := subscription }
    else row
  | .update subscription columns, row =>
    if row.has subscription then row.subscribe columns else row
  | .cancel subscription, row =>
    if row.has subscription then
      { row with plan := "free", subscriptionStatus := some "canceled" }
    else row
  | .pastDue subscription, row =>
    if row.has subscription then { row with subscriptionStatus := some "past_due" } else row
  | _, row => row

section

variable (services : PaddleServices)

def planOf : Json → Except PyError Str
  | .str priceId =>
    if priceId.isEmpty then .ok "free"
    else
      match services.planLimits priceId with
      | some plan => .ok plan
      | none =>
        if priceId ∈ services.cloudPriceIds then .ok "cloud"
        else if priceId ∈ services.teamsPriceIds then .ok "teams"
        else .ok "free"
  | _ => .error .databaseError

def columnsOf (data : Json) : Except PyError (Json × SubscriptionColumns) := do
  let status ← getKey data "status"
  let plan ← planOf services (extractPriceId data)
  let (priceCents, currency) ← extractPrice services data
  return (status.orElse (.str "active"),
    { plan, status := [], trialEndsAt := extractTrialEnd services data
      currentPeriodEndsAt := extractPeriodEnd services data
      cancelAtPeriodEnd := extractCancelAtPeriodEnd data, priceCents, currency })

/-- The statement by which an activation changes a workspace. -/
def activationOf (data : Json) : Except PyError (Option BillingOp) := do
  let workspaceId ← workspaceIdOf data
  let customerId ← getKey data "customer_id"
  let subscriptionId ← getKey data "id"
  let (status, columns) ← columnsOf services data
  if !workspaceId.truthy then return none
  let customer ← idHash services customerId
  let subscription ← idHash services subscriptionId
  let status ← textArgument status
  let workspaceId ← uuidArgument services workspaceId
  return some (.activate workspaceId customer subscription { columns with status })

def updateOf (data : Json) : Except PyError (Option BillingOp) := do
  let subscriptionId ← getKey data "id"
  let (status, columns) ← columnsOf services data
  let subscription ← idHash services subscriptionId
  let status ← textArgument status
  return some (.update subscription { columns with status })

def cancellationOf (data : Json) : Except PyError (Option BillingOp) := do
  let subscriptionId ← getKey data "id"
  return some (.cancel (← idHash services subscriptionId))

def failureOf (data : Json) : Except PyError (Option BillingOp) := do
  let subscriptionId ← failedSubscription data
  if !subscriptionId.truthy then return none
  return some (.pastDue (← idHash services subscriptionId))

/-- The statement by which an event changes a workspace, unless its handler raises first. -/
def PaddleEvent.change (event : PaddleEvent) : Except PyError (Option BillingOp) :=
  let type := event.eventType
  if type = "subscription.activated" ∨ type = "subscription.trialing" then
    activationOf services event.data
  else if type = "subscription.updated" then updateOf services event.data
  else if type = "subscription.canceled" ∨ type = "subscription.paused" then
    cancellationOf services event.data
  else if type = "transaction.payment_failed" then failureOf services event.data
  else .ok none

def changing : Except PyError (Option BillingOp) → BillingRow → BillingRow
  | .ok (some op), row => op.onRow row
  | _, row => row

variable {services} {α β : Type}

variable (services) in
/-- A part of a handler that only reads what does not change. -/
def Computes (p : Handling α) (x : Except PyError α) : Prop :=
  ∀ (eventId : Str) (w : BillingWorld), w.health = .up → w.handle services eventId p = (w, x)

variable (services) in
def Changes (p : Handling α) (x : Except PyError (Option BillingOp)) : Prop :=
  ∀ (eventId : Str) (w : BillingWorld), w.health = .up →
    (w.handle services eventId p).1.workspaces = w.workspaces.map (changing x)

theorem Computes.raising (x : Except PyError α) : Computes services (raising x) x := by
  intro eventId w _
  cases x <;> rfl

theorem Computes.bind {p : Handling α} {x : Except PyError α} {f : α → Handling β}
    {g : α → Except PyError β} (first : Computes services p x)
    (rest : ∀ a, Computes services (f a) (g a)) : Computes services (p >>= f) (x >>= g) := by
  intro eventId w healthy
  rw [handle_bind, first eventId w healthy]
  cases x with
  | ok a => exact rest a eventId w healthy
  | error error => rfl

theorem Changes.bind {p : Handling α} {x : Except PyError α} {f : α → Handling β}
    {g : α → Except PyError (Option BillingOp)} (first : Computes services p x)
    (rest : ∀ a, Changes services (f a) (g a)) : Changes services (p >>= f) (x >>= g) := by
  intro eventId w healthy
  rw [handle_bind, first eventId w healthy]
  cases x with
  | ok a => exact rest a eventId w healthy
  | error error => exact (List.map_id w.workspaces).symm

theorem execute_workspaces {w : BillingWorld} (op : BillingOp) :
    (w.execute services op).1.workspaces = w.workspaces.map op.onRow := by
  cases op with
  | seed workspaceId start finish =>
    simp only [BillingWorld.execute]
    split <;> exact (List.map_id w.workspaces).symm
  | activate =>
    simp only [BillingWorld.execute, BillingWorld.updateWhere, decide_eq_true_eq]
    rfl
  | update | cancel | pastDue => rfl
  | planOfPrice | workspaceOf | workspaceById | mail => exact (List.map_id w.workspaces).symm

theorem answer_workspaces {w : BillingWorld} (healthy : w.health = .up) (eventId : Str)
    (op : BillingOp) :
    (w.answer services eventId op).1.workspaces = w.workspaces.map op.onRow := by
  simp only [BillingWorld.answer, healthy]
  split <;> exact execute_workspaces op

theorem onRow_of_reads {op : BillingOp} (reads : op.writes = false) : op.onRow = id := by
  cases op <;> first | rfl | cases reads

theorem Changes.nothing {p : Handling α} {x : Except PyError (Option BillingOp)}
    (leaves : Changes services p (.ok none)) (silent : changing x = id) : Changes services p x := by
  intro eventId w healthy
  rw [leaves eventId w healthy, silent]
  rfl

theorem Changes.done (a : α) : Changes services (.done a) (.ok none) := by
  intro eventId w _
  exact (List.map_id w.workspaces).symm

theorem Changes.raised (error : PyError) :
    Changes services (.raised error : Handling α) (.ok none) := by
  intro eventId w _
  exact (List.map_id w.workspaces).symm

theorem Changes.await {op : BillingOp} {next : op.Answer → Handling α} (reads : op.writes = false)
    (rest : ∀ answer, Changes services (next answer) (.ok none)) :
    Changes services (.await op next) (.ok none) := by
  intro eventId w healthy
  have up := @answer_health services w op eventId
  rw [healthy] at up
  rw [BillingWorld.handle, rest _ eventId _ up, answer_workspaces healthy, onRow_of_reads reads]
  simp

theorem Changes.call {op : BillingOp} {next : op.Reply → Handling α}
    (rest : ∀ reply, Changes services (next reply) (.ok none)) :
    Changes services (op.call >>= next) (.ok (some op)) := by
  intro eventId w healthy
  have up := @answer_health services w op eventId
  rw [healthy] at up
  have replied : (w.answer services eventId op).2 = .ok (w.execute services op).2 := by
    simp only [BillingWorld.answer, healthy]
  show ((w.answer services eventId op).1.handle services eventId _).1.workspaces = _
  rw [replied]
  have rest := rest (w.execute services op).2 eventId (w.answer services eventId op).1 up
  rw [answer_workspaces healthy, List.map_map] at rest
  exact rest

theorem Changes.leaving {p : Handling α} {f : α → Handling β}
    (first : Changes services p (.ok none))
    (rest : ∀ a, Changes services (f a) (.ok none)) : Changes services (p >>= f) (.ok none) := by
  intro eventId w healthy
  have up := @handle_health services _ w eventId p
  have before := first eventId w healthy
  rw [healthy] at up
  rw [handle_bind]
  split
  · rename_i w' a ended
    rw [ended] at up before
    have after := rest a eventId w' up
    rwa [before, List.map_map] at after
  · rename_i w' error ended
    rw [ended] at before
    exact before

theorem Changes.read {op : BillingOp} (reads : op.writes = false) :
    Changes services op.call (.ok none) := by
  apply Changes.await reads
  intro answer
  cases answer
  · exact .raised _
  · exact .done _

theorem Changes.attempt {op : BillingOp} (reads : op.writes = false) :
    Changes services op.attempt (.ok none) := by
  apply Changes.await reads
  intro answer
  cases answer <;> exact .done _

theorem Computes.done (a : α) : Computes services (.done a) (.ok a) := fun _ _ _ => rfl

theorem Computes.call {op : BillingOp} {reply : op.Reply} (reads : op.writes = false)
    (answers : ∀ w : BillingWorld, w.execute services op = (w, reply)) :
    Computes services op.call (.ok reply) := by
  intro eventId w healthy
  have answered : w.answer services eventId op = (w, .ok reply) := by
    simp only [BillingWorld.answer, healthy, answers, reads, Bool.false_eq_true, if_false]
  rw [BillingOp.call, BillingWorld.handle, answered]
  rfl

theorem planFromPriceId_computes (priceId : Json) :
    Computes services (planFromPriceId services priceId) (planOf services priceId) := by
  cases priceId with
  | str priceId =>
    simp only [planFromPriceId, planOf]
    split
    · exact .done _
    · have found : Computes services (BillingOp.planOfPrice priceId).call
          (.ok (services.planLimits priceId)) := .call rfl fun _ => rfl
      intro eventId w healthy
      rw [handle_bind, found eventId w healthy]
      cases services.planLimits priceId with
      | some plan => rfl
      | none =>
        simp only
        split_ifs <;> rfl
  | _ => exact fun _ _ _ => rfl

theorem subscriptionColumns_computes (data : Json) :
    Computes services (subscriptionColumns services data) (columnsOf services data) := by
  apply Computes.bind (.raising _)
  intro status
  apply Computes.bind (planFromPriceId_computes _)
  intro plan
  apply Computes.bind (.raising _)
  rintro ⟨priceCents, currency⟩
  exact .done _

theorem handleSubscriptionActivated_changes (data : Json) :
    Changes services (handleSubscriptionActivated services data) (activationOf services data) := by
  apply Changes.bind (.raising _)
  intro workspaceId
  apply Changes.bind (.raising _)
  intro customerId
  apply Changes.bind (.raising _)
  intro subscriptionId
  apply Changes.bind (subscriptionColumns_computes data)
  rintro ⟨status, columns⟩
  simp only
  split
  · exact .done _
  · apply Changes.bind (.raising _)
    intro customer
    apply Changes.bind (.raising _)
    intro subscription
    apply Changes.bind (.raising _)
    intro status
    apply Changes.bind (.raising _)
    intro workspaceId
    apply Changes.call
    intro _
    split
    · exact Changes.leaving (.attempt rfl) fun _ => .done _
    · exact .done _

theorem handleSubscriptionUpdated_changes (data : Json) :
    Changes services (handleSubscriptionUpdated services data) (updateOf services data) := by
  apply Changes.bind (.raising _)
  intro subscriptionId
  apply Changes.bind (subscriptionColumns_computes data)
  rintro ⟨status, columns⟩
  apply Changes.bind (.raising _)
  intro subscription
  apply Changes.bind (.raising _)
  intro status
  apply Changes.call
  intro _
  split
  · apply Changes.leaving (.attempt rfl)
    intro workspace
    split
    · exact Changes.leaving (.attempt rfl) fun _ => .done _
    · exact .done _
  · exact .done _

theorem Changes.last {op : BillingOp} : Changes services op.call (.ok (some op)) := by
  have ended : op.call = op.call >>= fun reply => (.done reply : Handling op.Reply) := by
    simp only [BillingOp.call, Program.await_bind]
    congr 1
    funext answer
    cases answer <;> rfl
  rw [ended]
  exact .call fun _ => .done _

theorem handleSubscriptionCanceled_changes (data : Json) :
    Changes services (handleSubscriptionCanceled services data) (cancellationOf services data) := by
  apply Changes.bind (.raising _)
  intro subscriptionId
  apply Changes.bind (.raising _)
  intro subscription
  exact .last

theorem handlePaymentFailed_changes (data : Json) :
    Changes services (handlePaymentFailed services data) (failureOf services data) := by
  apply Changes.bind (.raising _)
  intro subscriptionId
  split
  · exact .done _
  · apply Changes.bind (.raising _)
    intro subscription
    exact .last

theorem Changes.raising (x : Except PyError α) : Changes services (raising x) (.ok none) := by
  cases x
  · exact .raised _
  · exact .done _

theorem transactionWorkspace_changes (workspaceId subscriptionId : Json) :
    Changes services (transactionWorkspace services workspaceId subscriptionId) (.ok none) := by
  have rest : ∀ byId : Option Str, Changes services (if byId.isNone ∧ subscriptionId.truthy then do
      (BillingOp.workspaceOf (← Backend.raising (idHash services subscriptionId))).call
      else return byId) (.ok none) := by
    intro byId
    split
    · exact Changes.leaving (.raising _) fun _ => .read rfl
    · exact .done _
  simp only [transactionWorkspace]
  split
  · apply Changes.leaving (.raising _)
    intro workspaceId
    exact Changes.leaving (.read rfl) rest
  · exact Changes.leaving (.done _) rest

theorem handleTransactionCompleted_changes (data : Json) :
    Changes services (handleTransactionCompleted services data) (.ok none) := by
  apply Changes.leaving (.raising _)
  intro subscriptionId
  apply Changes.leaving (.raising _)
  intro workspaceId
  apply Changes.leaving (transactionWorkspace_changes workspaceId subscriptionId)
  intro workspace
  split
  · exact Changes.leaving (.attempt rfl) fun _ => .done _
  · exact .done _

theorem handleApiKeyLifecycle_changes (data : Json) :
    Changes services (handleApiKeyLifecycle services data) (.ok none) := by
  apply Changes.leaving (.raising _)
  intro key
  split
  · simp only
    split
    · exact .read rfl
    · exact .done _
  · exact .raised _

/-- What a handler does to the workspaces is the statement of its event. -/
theorem handler_changes (event : PaddleEvent) :
    Changes services (handler services event) (event.change services) := by
  unfold handler PaddleEvent.change
  simp only
  split_ifs
  · exact handleSubscriptionActivated_changes event.data
  · exact handleSubscriptionUpdated_changes event.data
  · exact handleSubscriptionCanceled_changes event.data
  · exact handlePaymentFailed_changes event.data
  · exact handleTransactionCompleted_changes event.data
  · exact handleApiKeyLifecycle_changes event.data
  · exact .done _

theorem receive_workspaces {w : BillingWorld} (healthy : w.health = .up) (event : PaddleEvent)
    (new : w.recorded event.eventId = false) :
    (w.receive services event).workspaces =
      w.workspaces.map (changing (event.change services)) := by
  have recorded : (w.record event).workspaces = w.workspaces := by
    rw [BillingWorld.record]
    split <;> rfl
  have went := @handler_changes services event event.eventId (w.record event)
    (record_health.trans healthy)
  rw [recorded] at went
  rw [BillingWorld.receive, if_neg (by simp [new])]
  split
  · rename_i ended
    rw [ended] at went
    exact went
  · rename_i ended
    rw [ended] at went
    exact went

end

end BurnLens.Backend
