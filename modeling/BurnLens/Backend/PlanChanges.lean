import BurnLens.Backend.Receive
import BurnLens.Library.Lines
import BurnLens.Library.Text
import Mathlib.Data.Fintype.Basic

/-! # Changes of the plan

`change_plan` and `cancel_subscription` beside the webhook.  A downgrade is scheduled in two
columns of the workspace; an upgrade clears them, and nothing else does.
-/

namespace BurnLens.Backend

open Library

/-- The columns `scheduled_plan` and `scheduled_change_at` of a workspace. -/
structure ScheduledChange where
  plan : Option Str := none
  changeAt : Option Int := none
deriving DecidableEq

/-- The workspaces, with the two columns by the key of their row. -/
structure PlanWorld where
  billing : BillingWorld
  scheduled : Str → ScheduledChange := fun _ => {}

structure PlanSettings where
  services : PaddleServices
  paddleCloudPriceId : Str
  paddleCloudAnnualPriceId : Str
  paddleTeamsPriceId : Str
  paddleTeamsAnnualPriceId : Str

/-- `_PLAN_PRICE_CENTS.get(plan, 0)`. -/
def planPriceCents (plan : Str) : Int :=
  if plan = "cloud" then 2900 else if plan = "teams" then 9900 else 0

/-- `_PLAN_TIER.get(plan, -1)`. -/
def planTier (plan : Str) : Int :=
  if plan = "free" then 0 else if plan = "cloud" then 1 else if plan = "teams" then 2 else -1

def PlanSettings.planToPriceId (settings : PlanSettings) (plan : Str) (annual : Bool) : Option Str :=
  let priceId :=
    if plan = "cloud" then
      if annual then settings.paddleCloudAnnualPriceId else settings.paddleCloudPriceId
    else if plan = "teams" then
      if annual then settings.paddleTeamsAnnualPriceId else settings.paddleTeamsPriceId
    else []
  if priceId.isEmpty then none else some priceId

def PlanWorld.row (w : PlanWorld) (workspaceId : Str) : Option BillingRow :=
  w.billing.workspaces.find? fun row => row.id = workspaceId

/-- `(plan or "free").lower()`. -/
def planName (plan : Str) : Str := if plan.isEmpty then "free" else lower plan

def BillingRow.currentPlan (row : BillingRow) : Str := planName row.plan

/-! ## Requests -/

/-- A body that its validator has accepted. -/
structure ChangePlanBody where
  targetPlan : Str
  allowed : targetPlan = "cloud" ∨ targetPlan = "teams"

def validateTargetPlan (value : Str) : Option ChangePlanBody :=
  let lowered := lower (strip value)
  if allowed : lowered = "cloud" ∨ lowered = "teams" then some ⟨lowered, allowed⟩ else none

/-- What is sent to `PATCH /subscriptions/...`. -/
structure PlanPatch where
  priceId : Str
  prorationBillingMode : Str
  effectiveFrom : Option Str
deriving DecidableEq

inductive ProviderReply where
  -- a timeout, or an error of the transport
  | silent
  | status (code : Nat)
deriving DecidableEq

def ProviderReply.accepts : ProviderReply → Bool
  | .silent => false
  | .status code => code < 400

/-- The detail of the 502 that answers a request the provider has not accepted. -/
def ProviderReply.detail (rejected : Str) : ProviderReply → Str
  | .silent => "Billing provider did not respond"
  | .status code => if 500 ≤ code then "Billing provider error" else rejected

structure BillingSummary where
  plan : Str
  priceCents : Option Int
  currency : Option Str
  status : Str
  trialEndsAt : Option Int
  currentPeriodEndsAt : Option Int
  cancelAtPeriodEnd : Bool
  scheduledPlan : Option Str
  scheduledChangeAt : Option Int
deriving DecidableEq

inductive BillingAnswer where
  | refused (status : Nat) (detail : Str)
  | summary (summary : BillingSummary)
deriving DecidableEq

def workspaceNotFound : BillingAnswer := .refused 404 "Workspace not found"

def PlanWorld.loadBillingSummary (w : PlanWorld) (workspaceId : Str) : BillingAnswer :=
  match w.row workspaceId with
  | none => workspaceNotFound
  | some row => .summary
    { plan := row.plan
      priceCents := row.priceCents
      currency := row.currency
      status := match row.subscriptionStatus with
        | some (c :: cs) => c :: cs
        | _ => "active"
      trialEndsAt := row.trialEndsAt
      currentPeriodEndsAt := row.currentPeriodEndsAt
      cancelAtPeriodEnd := row.cancelAtPeriodEnd
      scheduledPlan := (w.scheduled workspaceId).plan
      scheduledChangeAt := (w.scheduled workspaceId).changeAt }

def PlanWorld.updateRow (w : PlanWorld) (workspaceId : Str) (change : BillingRow → BillingRow) :
    PlanWorld :=
  { w with billing := w.billing.updateWhere (fun row => row.id = workspaceId) change }

def PlanWorld.schedule (w : PlanWorld) (workspaceId : Str) (change : ScheduledChange) : PlanWorld :=
  { w with scheduled := Function.update w.scheduled workspaceId change }

def isUpgrade (row : BillingRow) (body : ChangePlanBody) : Bool :=
  planTier row.currentPlan < planTier body.targetPlan

/-- What `change_plan` asks of the provider, if it asks at all. -/
def PlanSettings.patchOf (settings : PlanSettings) (row : BillingRow) (body : ChangePlanBody) :
    Except (Nat × Str) (Option PlanPatch) :=
  let current := row.currentPlan
  let target := body.targetPlan
  if current = target then .ok none
  else if target = "free" then
    .error (400, "Downgrading to Free is a cancel. Call /billing/cancel instead.")
  else if row.subscriptionHash.isNone then
    .error (400, "No active subscription to change. Start a new checkout via /billing/checkout.")
  else
    let annual := planPriceCents current < row.priceCents.getD 0
    match settings.planToPriceId target annual with
    | none => .error (500, "Missing Paddle price_id for plan '" ++ target ++ "'")
    | some priceId =>
      if isUpgrade row body then .ok (some ⟨priceId, "prorated_immediately", none⟩)
      else .ok (some ⟨priceId, "do_not_bill", some "next_billing_period"⟩)

def PlanWorld.acceptChange (w : PlanWorld) (workspaceId : Str) (row : BillingRow)
    (body : ChangePlanBody) : PlanWorld :=
  if isUpgrade row body then
    (w.updateRow workspaceId fun row => { row with plan := body.targetPlan }).schedule workspaceId {}
  else w.schedule workspaceId ⟨some body.targetPlan, row.currentPeriodEndsAt⟩

def PlanWorld.changePlan (settings : PlanSettings) (w : PlanWorld) (workspaceId : Str)
    (body : ChangePlanBody) (reply : PlanPatch → ProviderReply) : PlanWorld × BillingAnswer :=
  if settings.services.paddleApiKey.isEmpty then (w, .refused 500 "Paddle not configured")
  else
    match w.row workspaceId with
    | none => (w, workspaceNotFound)
    | some row =>
      match settings.patchOf row body with
      | .error refusal => (w, .refused refusal.1 refusal.2)
      | .ok none => (w, w.loadBillingSummary workspaceId)
      | .ok (some patch) =>
        if (reply patch).accepts then
          let w := w.acceptChange workspaceId row body
          (w, w.loadBillingSummary workspaceId)
        else (w, .refused 502 ((reply patch).detail "Failed to change plan"))

/-- `cancel_subscription`, without the survey. -/
def PlanWorld.cancelSubscription (settings : PlanSettings) (w : PlanWorld) (workspaceId : Str)
    (reply : ProviderReply) : PlanWorld × BillingAnswer :=
  if settings.services.paddleApiKey.isEmpty then (w, .refused 500 "Paddle not configured")
  else
    match w.row workspaceId with
    | none => (w, workspaceNotFound)
    | some row =>
      if row.cancelAtPeriodEnd then (w, w.loadBillingSummary workspaceId)
      else if row.currentPlan = "free" ∨ row.subscriptionHash.isNone then
        (w, .refused 400 "No active subscription to cancel.")
      else if reply.accepts then
        let w := w.updateRow workspaceId fun row => { row with cancelAtPeriodEnd := true }
        (w, w.loadBillingSummary workspaceId)
      else (w, .refused 502 (reply.detail "Failed to cancel subscription"))

inductive PlanEvent where
  | changePlan (workspaceId : Str) (body : ChangePlanBody) (reply : PlanPatch → ProviderReply)
  | cancel (workspaceId : Str) (reply : ProviderReply)
  | webhook (event : PaddleEvent)

def PlanEvent.perform (settings : PlanSettings) (w : PlanWorld) : PlanEvent → PlanWorld
  | .changePlan workspaceId body reply => (w.changePlan settings workspaceId body reply).1
  | .cancel workspaceId reply => (w.cancelSubscription settings workspaceId reply).1
  | .webhook event => { w with billing := w.billing.receive settings.services event }

/-- Requests and deliveries, one after the other. -/
def planMachine (settings : PlanSettings) : Machine PlanWorld PlanEvent where
  step w event := some (event.perform settings w)

def endedStatuses : List (Option Str) := [some "canceled", some "paused"]

/-- A live paid subscription. -/
structure BillingRow.Live (row : BillingRow) : Prop where
  paid : row.currentPlan ≠ "free"
  subscribed : row.subscriptionHash.isSome = true
  running : row.subscriptionStatus ∉ endedStatuses

/-- No change is pending, or one to another plan of a live paid subscription. -/
def ScheduledChange.Real (change : ScheduledChange) (row : BillingRow) : Prop :=
  change = {} ∨ ∃ plan, change.plan = some plan ∧ planName plan ≠ row.currentPlan ∧ row.Live

/-- From one state of the workspace to the other, the plan was changed (by the scheduled change,
    an upgrade or a switch), a cancellation was scheduled, or the subscription has ended. -/
inductive Overtaken (before after : BillingRow) : Prop where
  | changed (other : after.currentPlan ≠ before.currentPlan)
  | canceling (before : before.cancelAtPeriodEnd = false) (after : after.cancelAtPeriodEnd = true)
  | ended (lost : ¬ after.Live)

def PlanWorld.Real (w : PlanWorld) (workspaceId : Str) : Prop :=
  ∀ row, w.row workspaceId = some row → (w.scheduled workspaceId).Real row

/-- Where the change was overtaken, no change is pending. -/
def PlanWorld.Settles (workspaceId : Str) (w w' : PlanWorld) : Prop :=
  ∀ row row', w.row workspaceId = some row → w'.row workspaceId = some row' →
    Overtaken row row' → w'.scheduled workspaceId = {}

/-! ## The condition -/

/-- The provider is asked for the change, and accepts it. -/
def PlanSettings.accepted (settings : PlanSettings) (row : BillingRow) (body : ChangePlanBody)
    (reply : PlanPatch → ProviderReply) : Bool :=
  !settings.services.paddleApiKey.isEmpty &&
    match settings.patchOf row body with
    | .ok (some patch) => (reply patch).accepts
    | _ => false

/-- The provider is asked for the cancellation, and accepts it. -/
def PlanSettings.cancels (settings : PlanSettings) (row : BillingRow) (reply : ProviderReply) : Bool :=
  !settings.services.paddleApiKey.isEmpty && !row.cancelAtPeriodEnd &&
    row.currentPlan ≠ "free" && row.subscriptionHash.isSome && reply.accepts

/-- Columns of the same plan, without a cancellation that is new, of a running subscription. -/
def SubscriptionColumns.Keep (columns : SubscriptionColumns) (row : BillingRow) : Prop :=
  planName columns.plan = row.currentPlan ∧
    (columns.cancelAtPeriodEnd = true → row.cancelAtPeriodEnd = true) ∧
    some columns.status ∉ endedStatuses

instance (columns : SubscriptionColumns) (row : BillingRow) : Decidable (columns.Keep row) :=
  inferInstanceAs (Decidable (_ ∧ _ ∧ _))

def BillingOp.LeavesPlan : BillingOp → BillingRow → Prop
  | .activate workspaceId _ subscription columns, row =>
    row.id = workspaceId → columns.Keep row ∧ subscription.isSome = true
  | .update subscription columns, row => row.has subscription = true → columns.Keep row
  | .cancel subscription, row => row.has subscription = false
  | _, _ => True

instance : (op : BillingOp) → (row : BillingRow) → Decidable (op.LeavesPlan row)
  | .activate .., _ => inferInstanceAs (Decidable (_ → _ ∧ _))
  | .update .., _ => inferInstanceAs (Decidable (_ → _))
  | .cancel _, _ => inferInstanceAs (Decidable (_ = _))
  | .pastDue _, _ | .planOfPrice _, _ | .workspaceOf _, _ | .workspaceById _, _ | .seed .., _
  | .mail, _ => isTrue trivial

/-- The event schedules no downgrade of a subscription that has ended, and overtakes no change
    that is pending: only an upgrade may do that. -/
def Respects (settings : PlanSettings) (workspaceId : Str) (w : PlanWorld) : PlanEvent → Prop
  | .changePlan id body reply =>
    id = workspaceId → ∀ row ∈ w.row workspaceId,
      settings.accepted row body reply = true → isUpgrade row body = false →
        row.subscriptionStatus ∉ endedStatuses
  | .cancel id reply =>
    id = workspaceId → w.scheduled workspaceId ≠ {} → ∀ row ∈ w.row workspaceId,
      settings.cancels row reply = false
  | .webhook event =>
    w.scheduled workspaceId ≠ {} → w.billing.recorded event.eventId = false →
      ∀ op ∈ (event.change settings.services).toOption.join, ∀ row ∈ w.row workspaceId,
        op.LeavesPlan row

instance (settings : PlanSettings) (workspaceId : Str) (w : PlanWorld) :
    (event : PlanEvent) → Decidable (Respects settings workspaceId w event)
  | .changePlan .. | .cancel .. | .webhook _ => by
    unfold Respects
    infer_instance

section

variable {settings : PlanSettings} {w w' : PlanWorld} {workspaceId id : Str} {row row' : BillingRow}
  {change : ScheduledChange} {body : ChangePlanBody} {reply : PlanPatch → ProviderReply}

/-! ## What an event does to a workspace -/

theorem row_updateRow {update : BillingRow → BillingRow} (keeps : ∀ row, (update row).id = row.id) :
    (w.updateRow id update).row workspaceId =
      if id = workspaceId then (w.row workspaceId).map update else w.row workspaceId := by
  have ids : ∀ row : BillingRow, (if decide (row.id = id) then update row else row).id = row.id := by
    intro row
    split
    · exact keeps row
    · rfl
  have found : (w.updateRow id update).row workspaceId =
      (w.row workspaceId).map fun row => if decide (row.id = id) then update row else row := by
    simp only [PlanWorld.row, PlanWorld.updateRow, BillingWorld.updateWhere, List.find?_map,
      Function.comp_def, ids]
  rw [found]
  cases there : w.row workspaceId with
  | none => split <;> rfl
  | some row =>
    have its : row.id = workspaceId := by simpa using List.find?_some there
    rw [Option.map_some, its]
    by_cases same : workspaceId = id
    · rw [if_pos (decide_eq_true same), if_pos same.symm]
      rfl
    · rw [if_neg (by simpa using same), if_neg (Ne.symm same)]

/-- The row of a workspace, and its pending change. -/
def PlanWorld.view (w : PlanWorld) (workspaceId : Str) : Option BillingRow × ScheduledChange :=
  (w.row workspaceId, w.scheduled workspaceId)

theorem scheduled_schedule (other : id ≠ workspaceId) (change : ScheduledChange) :
    (w.schedule id change).scheduled workspaceId = w.scheduled workspaceId := by
  unfold PlanWorld.schedule
  exact Function.update_of_ne (Ne.symm other) _ _

theorem view_acceptChange_of_ne (other : id ≠ workspaceId) (row : BillingRow) :
    (w.acceptChange id row body).view workspaceId = w.view workspaceId := by
  rw [PlanWorld.acceptChange]
  split
  · refine Prod.ext ?_ (scheduled_schedule other {})
    refine (row_updateRow ?_).trans (if_neg other)
    exact fun _ => rfl
  · exact Prod.ext rfl (scheduled_schedule other _)

theorem view_acceptChange (there : w.row workspaceId = some row) :
    (w.acceptChange workspaceId row body).view workspaceId =
      if isUpgrade row body then (some { row with plan := body.targetPlan }, {})
      else (some row, ⟨some body.targetPlan, row.currentPeriodEndsAt⟩) := by
  rw [PlanWorld.acceptChange]
  split
  · refine Prod.ext ?_ (Function.update_self ..)
    refine (row_updateRow ?_).trans ((if_pos rfl).trans (congrArg _ there))
    exact fun _ => rfl
  · exact Prod.ext there (Function.update_self ..)

theorem changePlan_world (id : Str) (body : ChangePlanBody) (reply : PlanPatch → ProviderReply) :
    (w.changePlan settings id body reply).1 =
      match w.row id with
      | none => w
      | some row => if settings.accepted row body reply then w.acceptChange id row body else w := by
  rw [PlanWorld.changePlan]
  cases w.row id with
  | none => split <;> rfl
  | some row =>
    show _ = if settings.accepted row body reply then w.acceptChange id row body else w
    rw [PlanSettings.accepted]
    by_cases configured : settings.services.paddleApiKey.isEmpty = true
    · rw [if_pos configured, configured]
      rfl
    · rw [if_neg configured, eq_false_of_ne_true configured]
      dsimp only
      split
      · rename_i asked
        rw [asked]
        rfl
      · rename_i asked
        rw [asked]
        rfl
      · rename_i patch asked
        rw [asked]
        cases accepts : (reply patch).accepts <;> simp [accepts]

theorem cancelSubscription_world (id : Str) (reply : ProviderReply) :
    (w.cancelSubscription settings id reply).1 =
      match w.row id with
      | none => w
      | some row =>
        if settings.cancels row reply then
          w.updateRow id fun row => { row with cancelAtPeriodEnd := true }
        else w := by
  rw [PlanWorld.cancelSubscription]
  cases w.row id with
  | none => split <;> rfl
  | some row =>
    show _ = if settings.cancels row reply then _ else w
    rw [PlanSettings.cancels]
    by_cases configured : settings.services.paddleApiKey.isEmpty = true
    · rw [if_pos configured, configured]
      rfl
    · rw [if_neg configured, eq_false_of_ne_true configured]
      dsimp only
      cases canceled : row.cancelAtPeriodEnd with
      | true => rfl
      | false =>
        rw [if_neg Bool.false_ne_true]
        by_cases free : row.currentPlan = "free"
        · simp [free]
        · cases subscribed : row.subscriptionHash with
          | none => simp
          | some subscription =>
            have asked : ¬ (row.currentPlan = "free" ∨ (some subscription).isNone = true) :=
              not_or.mpr ⟨free, Bool.false_ne_true⟩
            rw [if_neg asked, decide_eq_true free]
            cases reply.accepts <;> rfl

theorem row_receive (healthy : w.billing.health = .up) (event : PaddleEvent) :
    (PlanEvent.perform settings w (.webhook event)).row workspaceId =
      if w.billing.recorded event.eventId then w.row workspaceId
      else (w.row workspaceId).map (changing (event.change settings.services)) := by
  have ids : ∀ row : BillingRow, (changing (event.change settings.services) row).id = row.id := by
    intro row
    cases event.change settings.services with
    | error => rfl
    | ok change =>
      cases change with
      | none => rfl
      | some op => cases op <;> simp only [changing, BillingOp.onRow] <;> first | rfl | (split <;> rfl)
  simp only [PlanWorld.row, PlanEvent.perform]
  cases new : w.billing.recorded event.eventId with
  | true =>
    rw [if_pos rfl, BillingWorld.receive, if_pos new]
  | false =>
    rw [if_neg (by decide), receive_workspaces healthy event new, List.find?_map]
    simp only [Function.comp_def, ids]

/-! ## What keeps a change real -/

/-- The step of a workspace to this row and this pending change keeps what a pending change is. -/
def Sound (row row' : BillingRow) (change' : ScheduledChange) : Prop :=
  change'.Real row' ∧ (Overtaken row row' → change' = {})

theorem not_overtaken_iff :
    ¬ Overtaken row row' ↔ row'.currentPlan = row.currentPlan ∧
      (row'.cancelAtPeriodEnd = true → row.cancelAtPeriodEnd = true) ∧ row'.Live := by
  constructor
  · intro kept
    refine ⟨?_, fun after => ?_, ?_⟩
    · by_contra other
      exact kept (.changed other)
    · cases before : row.cancelAtPeriodEnd with
      | true => rfl
      | false => exact absurd (.canceling before after) kept
    · by_contra lost
      exact kept (.ended lost)
  · rintro ⟨same, canceled, live⟩ (other | ⟨before, after⟩ | lost)
    · exact other same
    · rw [before] at canceled
      exact Bool.false_ne_true (canceled after)
    · exact lost live

theorem sound_empty : Sound row row' {} := ⟨.inl rfl, fun _ => rfl⟩

theorem live_of_pending (pending : change ≠ {}) (real : change.Real row) : row.Live := by
  obtain empty | ⟨_, _, _, live⟩ := real
  · exact absurd empty pending
  · exact live

theorem sound_iff_of_pending (pending : change ≠ {}) (real : change.Real row) :
    Sound row row' change ↔ ¬ Overtaken row row' := by
  constructor
  · intro sound overtaken
    exact pending (sound.2 overtaken)
  · intro kept
    obtain empty | ⟨plan, scheduled, other, -⟩ := real
    · exact absurd empty pending
    · obtain ⟨same, -, live⟩ := not_overtaken_iff.mp kept
      rw [← same] at other
      exact ⟨.inr ⟨plan, scheduled, other, live⟩, fun overtaken => absurd overtaken kept⟩

theorem sound_self (real : change.Real row) : Sound row row change := by
  by_cases pending : change = {}
  · rw [pending]
    exact sound_empty
  · rw [sound_iff_of_pending pending real, not_overtaken_iff]
    exact ⟨rfl, id, live_of_pending pending real⟩

theorem planName_target (body : ChangePlanBody) : planName body.targetPlan = body.targetPlan := by
  obtain cloud | teams := body.allowed
  · rw [cloud]
    decide
  · rw [teams]
    decide

/-- A downgrade that was accepted: from the plan of a subscription to another one. -/
theorem downgrade_accepted (accepted : settings.accepted row body reply = true)
    (down : isUpgrade row body = false) :
    row.currentPlan ≠ body.targetPlan ∧ row.currentPlan ≠ "free" ∧
      row.subscriptionHash.isSome = true := by
  simp only [PlanSettings.accepted, Bool.and_eq_true] at accepted
  have asked := accepted.2
  unfold PlanSettings.patchOf at asked
  dsimp only at asked
  by_cases same : row.currentPlan = body.targetPlan
  · rw [if_pos same] at asked
    cases asked
  · rw [if_neg same] at asked
    refine ⟨same, ?_, ?_⟩
    · intro free
      rw [isUpgrade, free] at down
      obtain cloud | teams := body.allowed
      · rw [cloud] at down
        exact absurd down (by decide)
      · rw [teams] at down
        exact absurd down (by decide)
    · cases subscribed : row.subscriptionHash with
      | some subscription => rfl
      | none =>
        by_cases free : body.targetPlan = "free"
        · rw [if_pos free] at asked
          cases asked
        · rw [if_neg free, subscribed, if_pos (Option.isNone_none)] at asked
          cases asked

theorem sound_schedule (accepted : settings.accepted row body reply = true)
    (down : isUpgrade row body = false) (changeAt : Option Int) :
    Sound row row ⟨some body.targetPlan, changeAt⟩ ↔ row.subscriptionStatus ∉ endedStatuses := by
  obtain ⟨other, paid, subscribed⟩ := downgrade_accepted accepted down
  have pending : (⟨some body.targetPlan, changeAt⟩ : ScheduledChange) ≠ {} := by
    intro empty
    cases congrArg ScheduledChange.plan empty
  constructor
  · intro sound
    exact (live_of_pending pending sound.1).running
  · intro running
    refine sound_self (.inr ⟨body.targetPlan, rfl, ?_, ⟨paid, subscribed, running⟩⟩)
    rw [planName_target]
    exact Ne.symm other

theorem overtaken_of_cancels {reply : ProviderReply} (cancels : settings.cancels row reply = true) :
    Overtaken row { row with cancelAtPeriodEnd := true } := by
  simp only [PlanSettings.cancels, Bool.and_eq_true, Bool.not_eq_true'] at cancels
  exact .canceling cancels.1.1.1.2 rfl

theorem keep_iff (live : row.Live) (columns : SubscriptionColumns) (row' : BillingRow)
    (plan : row'.plan = columns.plan) (status : row'.subscriptionStatus = some columns.status)
    (cancel : row'.cancelAtPeriodEnd = columns.cancelAtPeriodEnd) :
    columns.Keep row ∧ row'.subscriptionHash.isSome = true ↔ ¬ Overtaken row row' := by
  have current : row'.currentPlan = planName columns.plan := congrArg planName plan
  rw [not_overtaken_iff, SubscriptionColumns.Keep, current, cancel]
  constructor
  · rintro ⟨⟨same, canceled, running⟩, subscribed⟩
    refine ⟨same, canceled, ?_, subscribed, ?_⟩
    · rw [current, same]
      exact live.paid
    · rw [status]
      exact running
  · rintro ⟨same, canceled, -, subscribed, running⟩
    rw [status] at running
    exact ⟨⟨same, canceled, running⟩, subscribed⟩

theorem leavesPlan_iff (live : row.Live) (op : BillingOp) :
    op.LeavesPlan row ↔ ¬ Overtaken row (op.onRow row) := by
  have still : ¬ Overtaken row row := not_overtaken_iff.mpr ⟨rfl, id, live⟩
  cases op with
  | activate workspaceId customer subscription columns =>
    simp only [BillingOp.LeavesPlan, BillingOp.onRow]
    split
    · rename_i its
      rw [forall_prop_of_true its]
      exact keep_iff live columns { row.subscribe columns with
        customerHash := customer, subscriptionHash := subscription } rfl rfl rfl
    · rename_i other
      exact iff_of_true (fun its => absurd its other) still
  | update subscription columns =>
    simp only [BillingOp.LeavesPlan, BillingOp.onRow]
    split
    · rename_i its
      have written : columns.Keep row ∧ row.subscriptionHash.isSome = true ↔
          ¬ Overtaken row (row.subscribe columns) :=
        keep_iff live columns (row.subscribe columns) rfl rfl rfl
      rw [forall_prop_of_true its, ← written]
      exact (and_iff_left live.subscribed).symm
    · rename_i other
      exact iff_of_true (fun its => absurd its other) still
  | cancel subscription =>
    simp only [BillingOp.LeavesPlan, BillingOp.onRow]
    split
    · rename_i its
      refine iff_of_false (by simp [its]) (not_not_intro (.ended ?_))
      exact fun after => after.running (.head _)
    · rename_i other
      exact iff_of_true (Bool.eq_false_of_not_eq_true other) still
  | pastDue subscription =>
    refine iff_of_true trivial ?_
    simp only [BillingOp.onRow]
    split
    · have running : some ("past_due" : Str) ∉ endedStatuses := by decide
      exact not_overtaken_iff.mpr ⟨rfl, id, live.paid, live.subscribed, running⟩
    · exact still
  | planOfPrice | workspaceOf | workspaceById | seed | mail => exact iff_of_true trivial still

/-! ## Every step -/

theorem good_iff_sound (there : w.row workspaceId = some row)
    (after : w'.view workspaceId = (some row', change)) :
    w'.Real workspaceId ∧ PlanWorld.Settles workspaceId w w' ↔ Sound row row' change := by
  have here : w'.row workspaceId = some row' := congrArg Prod.fst after
  have pending : w'.scheduled workspaceId = change := congrArg Prod.snd after
  constructor
  · rintro ⟨real, settles⟩
    have sound := real row' here
    rw [pending] at sound
    exact ⟨sound, fun overtaken => pending ▸ settles row row' there here overtaken⟩
  · rintro ⟨real, settles⟩
    constructor
    · intro other same
      rw [here] at same
      cases same
      rw [pending]
      exact real
    · intro before other was same overtaken
      rw [there] at was
      rw [here] at same
      cases was
      cases same
      exact pending.trans (settles overtaken)

theorem good_of_absent (gone : w'.row workspaceId = none) :
    w'.Real workspaceId ∧ PlanWorld.Settles workspaceId w w' := by
  constructor
  · intro row here
    rw [gone] at here
    cases here
  · intro row row' _ here
    rw [gone] at here
    cases here

theorem good_of_view (real : w.Real workspaceId) (same : w'.view workspaceId = w.view workspaceId) :
    w'.Real workspaceId ∧ PlanWorld.Settles workspaceId w w' := by
  cases there : w.row workspaceId with
  | none => exact good_of_absent ((congrArg Prod.fst same).trans there)
  | some row =>
    have after : w'.view workspaceId = (some row, w.scheduled workspaceId) := by
      rw [same, PlanWorld.view, there]
    exact (good_iff_sound there after).mpr (sound_self (real row there))

theorem respects_changePlan_iff (real : w.Real workspaceId) (id : Str) (body : ChangePlanBody)
    (reply : PlanPatch → ProviderReply) :
    Respects settings workspaceId w (.changePlan id body reply) ↔
      (w.changePlan settings id body reply).1.Real workspaceId ∧
        PlanWorld.Settles workspaceId w (w.changePlan settings id body reply).1 := by
  by_cases same : id = workspaceId
  · subst same
    rw [changePlan_world, Respects, forall_prop_of_true rfl]
    cases there : w.row id with
    | none => exact iff_of_true (fun row here => (by cases here)) (good_of_absent there)
    | some row =>
      dsimp only
      cases accepted : settings.accepted row body reply with
      | false =>
        rw [if_neg Bool.false_ne_true]
        refine iff_of_true ?_ (good_of_view real rfl)
        intro other here accepted'
        cases here
        rw [accepted] at accepted'
        cases accepted'
      | true =>
        rw [if_pos rfl]
        have after := @view_acceptChange w _ row body there
        cases up : isUpgrade row body with
        | true =>
          rw [up, if_pos rfl] at after
          refine iff_of_true ?_ ((good_iff_sound there after).mpr sound_empty)
          intro other here _ down
          cases here
          rw [up] at down
          cases down
        | false =>
          rw [up, if_neg Bool.false_ne_true] at after
          rw [good_iff_sound there after, sound_schedule accepted up]
          constructor
          · exact fun respects => respects row rfl accepted up
          · intro running other here _ _
            cases here
            exact running
  · refine iff_of_true (fun its => absurd its same) (good_of_view real ?_)
    rw [changePlan_world]
    split
    · rfl
    · split
      · exact view_acceptChange_of_ne same _
      · rfl

theorem respects_cancel_iff (real : w.Real workspaceId) (id : Str) (reply : ProviderReply) :
    Respects settings workspaceId w (.cancel id reply) ↔
      (w.cancelSubscription settings id reply).1.Real workspaceId ∧
        PlanWorld.Settles workspaceId w (w.cancelSubscription settings id reply).1 := by
  have keeps : ∀ row : BillingRow, ({ row with cancelAtPeriodEnd := true } : BillingRow).id = row.id :=
    fun _ => rfl
  by_cases same : id = workspaceId
  · subst same
    rw [cancelSubscription_world, Respects, forall_prop_of_true rfl]
    cases there : w.row id with
    | none => exact iff_of_true (fun _ row here => (by cases here)) (good_of_absent there)
    | some row =>
      dsimp only
      cases cancels : settings.cancels row reply with
      | false =>
        rw [if_neg Bool.false_ne_true]
        refine iff_of_true ?_ (good_of_view real rfl)
        intro _ other here
        cases here
        exact cancels
      | true =>
        rw [if_pos rfl]
        have after : (w.updateRow id fun row => { row with cancelAtPeriodEnd := true }).view id =
            (some { row with cancelAtPeriodEnd := true }, w.scheduled id) := by
          refine Prod.ext ?_ rfl
          exact (row_updateRow keeps).trans ((if_pos rfl).trans (congrArg _ there))
        rw [good_iff_sound there after]
        by_cases pending : w.scheduled id = {}
        · rw [pending]
          exact iff_of_true (fun never => absurd rfl never) sound_empty
        · rw [sound_iff_of_pending pending (real row there)]
          refine iff_of_false ?_ (not_not_intro (overtaken_of_cancels cancels))
          intro respects
          have refused := respects pending row rfl
          rw [cancels] at refused
          cases refused
  · refine iff_of_true (fun its => absurd its same) (good_of_view real ?_)
    rw [cancelSubscription_world]
    split
    · rfl
    · split
      · exact Prod.ext ((row_updateRow keeps).trans (if_neg same)) rfl
      · rfl

theorem respects_webhook_iff (healthy : w.billing.health = .up) (real : w.Real workspaceId)
    (event : PaddleEvent) :
    Respects settings workspaceId w (.webhook event) ↔
      (PlanEvent.perform settings w (.webhook event)).Real workspaceId ∧
        PlanWorld.Settles workspaceId w (PlanEvent.perform settings w (.webhook event)) := by
  have row' := @row_receive settings w workspaceId healthy event
  rw [Respects]
  cases recorded : w.billing.recorded event.eventId with
  | true =>
    rw [recorded, if_pos rfl] at row'
    refine iff_of_true (fun _ never => (by cases never)) (good_of_view real ?_)
    exact Prod.ext row' rfl
  | false =>
    rw [recorded, if_neg Bool.false_ne_true] at row'
    cases there : w.row workspaceId with
    | none =>
      rw [there] at row'
      exact iff_of_true (fun _ _ _ _ row here => (by cases here)) (good_of_absent row')
    | some row =>
      rw [there] at row'
      have after : (PlanEvent.perform settings w (.webhook event)).view workspaceId =
          (some (changing (event.change settings.services) row), w.scheduled workspaceId) :=
        Prod.ext row' rfl
      rw [good_iff_sound there after]
      by_cases pending : w.scheduled workspaceId = {}
      · rw [pending]
        exact iff_of_true (fun never => absurd rfl never) sound_empty
      · have live := live_of_pending pending (real row there)
        rw [sound_iff_of_pending pending (real row there)]
        have still : ¬ Overtaken row row := not_overtaken_iff.mpr ⟨rfl, id, live⟩
        cases changes : event.change settings.services with
        | error error =>
          exact iff_of_true (fun _ _ op here => (by cases here)) still
        | ok found =>
          cases found with
          | none => exact iff_of_true (fun _ _ op here => (by cases here)) still
          | some op =>
            have exactly := leavesPlan_iff live op
            constructor
            · exact fun respects => exactly.mp (respects pending rfl op rfl row rfl)
            · intro kept _ _ op' its other here
              cases its
              cases here
              exact exactly.mpr kept

theorem perform_health (event : PlanEvent) :
    (event.perform settings w).billing.health = w.billing.health := by
  cases event with
  | changePlan id body reply =>
    rw [PlanEvent.perform, changePlan_world]
    split
    · rfl
    · split
      · rw [PlanWorld.acceptChange]
        split <;> rfl
      · rfl
  | cancel id reply =>
    rw [PlanEvent.perform, cancelSubscription_world]
    split
    · rfl
    · split <;> rfl
  | webhook event => exact receive_health

/-- What a pending change is: from a world in which the pending change of a workspace is real,
    every run keeps it so, and clears it as soon as it is overtaken, if and only if its steps
    respect it. -/
theorem pending_change_iff (settings : PlanSettings) (workspaceId : Str) (w : PlanWorld)
    (healthy : w.billing.health = .up) (real : w.Real workspaceId) (events : List PlanEvent) :
    (planMachine settings).Guarded (Respects settings workspaceId) w events ↔
      ∀ before event s s', before ++ [event] <+: events →
        (planMachine settings).run w before = some s →
        (planMachine settings).step s event = some s' →
        s'.Real workspaceId ∧ PlanWorld.Settles workspaceId s s' := by
  have rule := @Machine.guarded_iff_steps _ _ (planMachine settings) (Respects settings workspaceId)
    (fun s => s.billing.health = .up ∧ s.Real workspaceId)
    (fun s s' => s'.Real workspaceId ∧ PlanWorld.Settles workspaceId s s')
  refine rule ?_ ?_ ⟨healthy, real⟩ events
  · intro s event s' inv stepped good
    cases stepped
    exact ⟨(perform_health event).trans inv.1, good.1⟩
  · intro s event inv
    have exactly : Respects settings workspaceId s event ↔
        (event.perform settings s).Real workspaceId ∧
          PlanWorld.Settles workspaceId s (event.perform settings s) := by
      cases event with
      | changePlan id body reply => exact respects_changePlan_iff inv.2 id body reply
      | cancel id reply => exact respects_cancel_iff inv.2 id reply
      | webhook event => exact respects_webhook_iff inv.1 inv.2 event
    constructor
    · intro respects s' stepped
      cases stepped
      exact exactly.mp respects
    · exact fun good => exactly.mpr (good _ rfl)

end

/-! ## A downgrade that takes effect -/

def planSettings : PlanSettings where
  services := { cloudServices with
    planLimits := fun priceId =>
      if priceId = "pri_cloud" then some "cloud"
      else if priceId = "pri_teams" then some "teams"
      else none
    paddleApiKey := "key" }
  paddleCloudPriceId := "pri_cloud"
  paddleCloudAnnualPriceId := []
  paddleTeamsPriceId := "pri_teams"
  paddleTeamsAnnualPriceId := []

/-- An event of the subscription to the plan of a price. -/
def planEvent (eventId eventType price : Str) : PlanEvent :=
  .webhook ⟨eventId, eventType, .obj [("id", .str "sub_1"),
    ("custom_data", .obj [("workspace_id", .str "w")]),
    ("items", .arr [.obj [("price", .obj [("id", .str price)])]])]⟩

def toCloud : PlanEvent := .changePlan "w" ⟨"cloud", .inl rfl⟩ fun _ => .status 200

def toTeams : PlanEvent := .changePlan "w" ⟨"teams", .inr rfl⟩ fun _ => .status 200

def freeWorld : PlanWorld where
  billing := { workspaces := [{ id := "w" }] }

theorem freeWorld_real : freeWorld.Real "w" := fun _ _ => .inl rfl

/-- The workspace subscribes, upgrades, schedules a downgrade, renews, and upgrades again. -/
def upgradedAgain : List PlanEvent :=
  [planEvent "evt_1" "subscription.activated" "pri_cloud", toTeams, toCloud,
    planEvent "evt_2" "subscription.updated" "pri_teams", toTeams]

theorem upgradedAgain_real : freeWorld.Real "w" ∧
    ∀ before event s s', before ++ [event] <+: upgradedAgain →
      (planMachine planSettings).run freeWorld before = some s →
      (planMachine planSettings).step s event = some s' →
      s'.Real "w" ∧ PlanWorld.Settles "w" s s' :=
  ⟨freeWorld_real, (pending_change_iff planSettings "w" freeWorld rfl freeWorld_real upgradedAgain).mp
    (by decide +kernel)⟩

/-- The workspace after the downgrade has taken effect. -/
def downgradedRow : BillingRow :=
  { id := "w", plan := "cloud", subscriptionHash := some "sub_1", subscriptionStatus := some "active" }

/-- The update that makes the scheduled downgrade take effect leaves it pending. -/
theorem downgraded_still_pending :
    freeWorld.billing.health = .up ∧ freeWorld.Real "w" ∧
      ∃ w, (planMachine planSettings).run freeWorld
          [planEvent "evt_1" "subscription.activated" "pri_teams", toCloud,
            planEvent "evt_2" "subscription.updated" "pri_cloud"] = some w ∧
        w.view "w" = (some downgradedRow, ⟨some "cloud", none⟩) ∧ ¬ w.Real "w" := by
  refine ⟨rfl, freeWorld_real, _, rfl, by decide +kernel, ?_⟩
  intro real
  obtain empty | ⟨plan, scheduled, other, -⟩ :=
    real downgradedRow (by decide +kernel)
  · cases empty
  · cases scheduled
    exact other (by decide +kernel)

end BurnLens.Backend
