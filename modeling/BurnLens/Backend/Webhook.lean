import BurnLens.Backend.Paddle
import BurnLens.Library.Fleet
import Mathlib.Data.List.Count

/-! # The billing webhook

`paddle_webhook` for events whose signature was verified, cut into its statements, while the
database answers, fails, or commits and loses its answer.  A delivery that stops halfway takes
no further step.
-/

namespace BurnLens.Backend

open Library

/-- A row of `workspaces`, as far as billing writes it. -/
structure BillingRow where
  id : Str
  plan : Str := "free"
  customerHash : Option Str := none
  subscriptionHash : Option Str := none
  subscriptionStatus : Option Str := none
  trialEndsAt : Option Int := none
  currentPeriodEndsAt : Option Int := none
  cancelAtPeriodEnd : Bool := false
  priceCents : Option Int := none
  currency : Option Str := none
deriving DecidableEq

def BillingRow.subscribe (row : BillingRow) (columns : SubscriptionColumns) : BillingRow :=
  { row with
    plan := columns.plan
    subscriptionStatus := some columns.status
    trialEndsAt := columns.trialEndsAt
    currentPeriodEndsAt := columns.currentPeriodEndsAt
    cancelAtPeriodEnd := columns.cancelAtPeriodEnd
    priceCents := columns.priceCents
    currency := columns.currency }

/-- A row of `paddle_events`. -/
structure PaddleRow where
  event : PaddleEvent
  -- `processed_at` is set
  processed : Bool := false
  error : Option PyError := none

inductive Health where
  | up
  | down
  -- a statement takes effect, and its answer is lost
  | lost
deriving DecidableEq

structure BillingWorld where
  health : Health := .up
  workspaces : List BillingRow
  events : List PaddleRow := []
  -- `workspace_usage_cycles`: workspace, start, end
  cycles : List (Str × Int × Int) := []
  -- the event of each statement that wrote a workspace
  effects : List Str := []

/-! ## Statements -/

/-- `WHERE paddle_subscription_id_hash = $1`, which no row meets for NULL. -/
def BillingRow.has (subscription : Option Str) (row : BillingRow) : Bool :=
  subscription.isSome && row.subscriptionHash = subscription

def BillingWorld.updateWhere (w : BillingWorld) (condition : BillingRow → Bool)
    (change : BillingRow → BillingRow) : BillingWorld :=
  { w with workspaces := w.workspaces.map fun row => if condition row then change row else row }

/-- What a statement does where it takes effect, and what it returns. -/
def BillingWorld.execute (services : PaddleServices) (w : BillingWorld) :
    (op : BillingOp) → BillingWorld × op.Reply
  | .planOfPrice priceId => (w, services.planLimits priceId)
  | .activate workspaceId customer subscription columns =>
    (w.updateWhere (fun row => row.id = workspaceId) fun row =>
      { row.subscribe columns with customerHash := customer, subscriptionHash := subscription }, ())
  | .update subscription columns =>
    (w.updateWhere (BillingRow.has subscription) fun row => row.subscribe columns, ())
  | .cancel subscription =>
    (w.updateWhere (BillingRow.has subscription) fun row =>
      { row with plan := "free", subscriptionStatus := some "canceled" }, ())
  | .pastDue subscription =>
    (w.updateWhere (BillingRow.has subscription) fun row =>
      { row with subscriptionStatus := some "past_due" }, ())
  | .workspaceOf subscription =>
    (w, (w.workspaces.find? (BillingRow.has subscription)).map BillingRow.id)
  | .workspaceById workspaceId =>
    (w, (w.workspaces.find? fun row => row.id = workspaceId).map BillingRow.id)
  | .seed workspaceId start finish =>
    (if w.cycles.any fun cycle => cycle.1 = workspaceId ∧ cycle.2.1 = start then w
     else { w with cycles := w.cycles ++ [(workspaceId, start, finish)] }, ())
  | .mail => (w, ())

def BillingWorld.answer (services : PaddleServices) (eventId : Str) (w : BillingWorld)
    (op : BillingOp) : BillingWorld × op.Answer :=
  let (next, reply) := w.execute services op
  let next := if op.writes then { next with effects := next.effects ++ [eventId] } else next
  match w.health with
  | .up => (next, .ok reply)
  | .down => (w, .error .databaseError)
  | .lost => (next, .error .databaseError)

def BillingWorld.recorded (w : BillingWorld) (eventId : Str) : Bool :=
  w.events.any fun row => row.event.eventId = eventId

/-- `INSERT INTO paddle_events ... ON CONFLICT DO NOTHING`. -/
def BillingWorld.record (w : BillingWorld) (event : PaddleEvent) : BillingWorld :=
  if w.recorded event.eventId then w else { w with events := w.events ++ [{ event }] }

def BillingWorld.updateEvent (w : BillingWorld) (eventId : Str) (change : PaddleRow → PaddleRow) :
    BillingWorld :=
  { w with
    events := w.events.map fun row => if row.event.eventId = eventId then change row else row }

/-- `SET processed_at = now()`. -/
def BillingWorld.markProcessed (w : BillingWorld) (eventId : Str) : BillingWorld :=
  w.updateEvent eventId fun row => { row with processed := true }

/-- `SET error = $1`. -/
def BillingWorld.markError (w : BillingWorld) (eventId : Str) (error : PyError) : BillingWorld :=
  w.updateEvent eventId fun row => { row with error := some error }

/-! ## What the statements leave alone -/

section

variable {services : PaddleServices} {w : BillingWorld} {event : PaddleEvent} {op : BillingOp}

theorem recorded_iff {id : Str} :
    w.recorded id = true ↔ ∃ row ∈ w.events, row.event.eventId = id := by
  simp [BillingWorld.recorded]

theorem updateEvent_recorded {id : Str} {change : PaddleRow → PaddleRow}
    (keeps : ∀ row, (change row).event = row.event) (other : Str) :
    (w.updateEvent id change).recorded other = w.recorded other := by
  simp only [BillingWorld.recorded, BillingWorld.updateEvent, List.any_map]
  congr 1
  funext row
  simp only [Function.comp_apply]
  split
  · rw [keeps]
  · rfl

theorem markProcessed_recorded (id other : Str) :
    (w.markProcessed id).recorded other = w.recorded other := by
  refine updateEvent_recorded ?_ other
  exact fun _ => rfl

theorem markError_recorded (id other : Str) (error : PyError) :
    (w.markError id error).recorded other = w.recorded other := by
  refine updateEvent_recorded ?_ other
  exact fun _ => rfl

theorem execute_events :
    (w.execute services op).1.events = w.events ∧ (w.execute services op).1.effects = w.effects := by
  cases op with
  | seed workspaceId start finish =>
    simp only [BillingWorld.execute]
    split <;> exact ⟨rfl, rfl⟩
  | _ => exact ⟨rfl, rfl⟩

theorem execute_health : (w.execute services op).1.health = w.health := by
  cases op with
  | seed workspaceId start finish =>
    simp only [BillingWorld.execute]
    split <;> rfl
  | _ => rfl

theorem answer_health {eventId : Str} : (w.answer services eventId op).1.health = w.health := by
  simp only [BillingWorld.answer]
  split
  all_goals first | rfl | (split <;> exact execute_health)

theorem answer_events {eventId : Str} : (w.answer services eventId op).1.events = w.events := by
  simp only [BillingWorld.answer]
  split
  all_goals first | rfl | (split <;> exact execute_events.1)

theorem record_effects : (w.record event).effects = w.effects := by
  rw [BillingWorld.record]
  split <;> rfl

theorem record_health : (w.record event).health = w.health := by
  rw [BillingWorld.record]
  split <;> rfl

end

/-! ## Deliveries -/

inductive Delivery where
  -- the dedup insert
  | deduping
  -- the handler
  | handling (handler : Handling Unit)
  -- the update of `processed_at`
  | closing
  -- the update of `error`
  | failing (error : PyError)
  | answered (status : Nat)

/-- What follows a statement of the handler. -/
def Delivery.after : Handling Unit → Delivery
  | .done _ => .closing
  | .raised error => .failing error
  | handler => .handling handler

section

variable (services : PaddleServices)

def BillingWorld.deliver (w : BillingWorld) (event : PaddleEvent) :
    Delivery → Option (BillingWorld × Delivery)
  | .deduping =>
    match w.health with
    | .up =>
      if w.recorded event.eventId then some (w, .answered 200)
      else some (w.record event, .after (handler services event))
    | .down => some (w, .answered 500)
    | .lost => some (w.record event, .answered 500)
  | .handling (.await op next) =>
    let (w', answer) := w.answer services event.eventId op
    some (w', .after (next answer))
  | .handling _ => none
  | .closing =>
    match w.health with
    | .up => some (w.markProcessed event.eventId, .answered 200)
    | .down => some (w, .failing .databaseError)
    | .lost => some (w.markProcessed event.eventId, .failing .databaseError)
  | .failing error =>
    match w.health with
    | .up => some (w.markError event.eventId error, .answered 200)
    | .down => some (w, .answered 500)
    | .lost => some (w.markError event.eventId error, .answered 500)
  | .answered _ => none

def webhookRoutes : Routes BillingWorld PaddleEvent Delivery Health where
  advance := BillingWorld.deliver services
  happen w health := { w with health }

abbrev WebhookState := Fleet BillingWorld PaddleEvent Delivery

abbrev WebhookLabel := FleetLabel Health

def webhookMachine : Machine WebhookState WebhookLabel := (webhookRoutes services).machine

end

/-- A backend whose price is the one of the cloud plan. -/
def cloudServices : PaddleServices where
  parseTime _ := none
  toInt _ := none
  upper := id
  isUuid _ := true
  lookupHash := id
  planLimits priceId := if priceId = "pri_cloud" then some "cloud" else none
  cloudPriceIds := ["pri_cloud"]
  teamsPriceIds := []
  paddleApiKey := []

end BurnLens.Backend
