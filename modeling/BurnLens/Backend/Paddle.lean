import BurnLens.Library.Json
import BurnLens.Library.Program

/-! # Paddle events

The handlers of the billing webhook, with the parts of the payload they read.  A handler is a
program over its statements, each of which may raise.  A timestamp is an instant; the
encrypted copies of the ids are left out.
-/

namespace BurnLens.Backend

open Library

/-! ## The payload -/

/-- `value.get(key)`. -/
def getKey (value : Json) (key : Str) : Except PyError Json :=
  (fun fields => fields.getD key .null) <$> value.dict

/-- `(value or {}).get(key)`. -/
def getIn (value : Json) (key : Str) : Except PyError Json := getKey (value.orElse (.obj [])) key

/-- What `for item in value` goes through. -/
def iterate : Json → Except PyError (List Json)
  | .arr items => .ok items
  | .obj fields => .ok (fields.map fun field => .str field.1)
  | .str s => .ok (s.map fun c => .str [c])
  | _ => .error .typeError

/-- `items[0]` of a nonempty value. -/
def firstItem : Json → Except PyError Json
  | .arr (item :: _) => .ok item
  | .str (c :: _) => .ok (.str [c])
  -- a `KeyError`
  | .obj _ => .error .runtimeError
  | _ => .error .typeError

/-- What the backend is configured with, and calls. -/
structure PaddleServices where
  -- `datetime.fromisoformat`, after the suffix `Z`
  parseTime : Str → Option Int
  -- `int(amount)`
  toInt : Json → Option Int
  upper : Str → Str
  isUuid : Str → Bool
  lookupHash : Str → Str
  -- `SELECT plan FROM plan_limits WHERE paddle_price_id = $1`
  planLimits : Str → Option Str
  cloudPriceIds : List Str
  teamsPriceIds : List Str
  paddleApiKey : Str

section

variable (services : PaddleServices)

def parseIso : Json → Option Int
  | .str text => if text.isEmpty then none else services.parseTime text
  | _ => none

def periodTime (key : Str) (data : Json) : Option Int :=
  match (do getIn (← getKey data "current_billing_period") key : Except PyError Json) with
  | .ok value => parseIso services value
  | .error _ => none

def extractPeriodStart (data : Json) : Option Int := periodTime services "starts_at" data

def extractPeriodEnd (data : Json) : Option Int := periodTime services "ends_at" data

/-- The first end of a trial among the line items. -/
def trialEndOf : List Json → Except PyError (Option Json)
  | [] => .ok none
  | item :: items => do
    let endsAt ← getIn (← getIn item "trial_dates") "ends_at"
    if endsAt.truthy then return some endsAt else trialEndOf items

def extractTrialEnd (data : Json) : Option Int :=
  let found : Except PyError Json := do
    let items ← iterate ((← getKey data "items").orElse (.arr []))
    match ← trialEndOf items with
    | some endsAt => return endsAt
    | none => getIn (← getKey data "trial_dates") "ends_at"
  match found with
  | .ok value => parseIso services value
  | .error _ => none

def extractCancelAtPeriodEnd (data : Json) : Bool :=
  match (do getIn (← getKey data "scheduled_change") "action" : Except PyError Json) with
  | .ok action => action.isText "cancel"
  | .error _ => false

/-- The price of the first line item, if there is one. -/
def firstPrice (data : Json) : Except PyError (Option Json) := do
  let items := (← getKey data "items").orElse (.arr [])
  if !items.truthy then return none
  return some ((← getIn (← firstItem items) "price").orElse (.obj []))

/-- `_extract_price`, which catches these two errors only. -/
def extractPrice (data : Json) : Except PyError (Option Int × Option Str) :=
  let found : Except PyError (Option Int × Option Str) := do
    match ← firstPrice data with
    | none => return (none, none)
    | some price =>
      let unit := (← getKey price "unit_price").orElse (.obj [])
      let amount ← getKey unit "amount"
      let currency ← getKey unit "currency_code"
      let cents ← match amount with
        | .null => pure none
        | amount =>
          match services.toInt amount with
          | some cents => pure (some cents)
          | none => .error .valueError
      return (cents, match currency with
        | .str code => some (services.upper code)
        | _ => none)
  match found with
  | .error .typeError | .error .valueError => .ok (none, none)
  | found => found

/-- `_extract_price_id(data) or ""`. -/
def extractPriceId (data : Json) : Json :=
  match (do
      match ← firstPrice data with
      | none => return .null
      | some price => getKey price "id" : Except PyError Json) with
  | .ok id => id.orElse (.str [])
  | .error _ => .str []

end

/-! ## Statements -/

/-- The columns that `_handle_subscription_updated` writes. -/
structure SubscriptionColumns where
  plan : Str
  status : Str
  trialEndsAt : Option Int
  currentPeriodEndsAt : Option Int
  cancelAtPeriodEnd : Bool
  priceCents : Option Int
  currency : Option Str
deriving DecidableEq

/-- The awaited calls of the handlers. -/
inductive BillingOp where
  | planOfPrice (priceId : Str)
  -- `UPDATE workspaces ... WHERE id = $12`
  | activate (workspaceId : Str) (customer subscription : Option Str) (columns : SubscriptionColumns)
  -- `UPDATE workspaces ... WHERE paddle_subscription_id_hash = ...`
  | update (subscription : Option Str) (columns : SubscriptionColumns)
  | cancel (subscription : Option Str)
  | pastDue (subscription : Option Str)
  | workspaceOf (subscription : Option Str)
  | workspaceById (workspaceId : Str)
  -- `INSERT INTO workspace_usage_cycles ... ON CONFLICT DO NOTHING`
  | seed (workspaceId : Str) (start finish : Int)
  | mail
deriving DecidableEq

/-- The statements that write the workspace. -/
def BillingOp.writes : BillingOp → Bool
  | .activate _ _ _ _ | .update _ _ | .cancel _ | .pastDue _ => true
  | _ => false

abbrev BillingOp.Reply : BillingOp → Type
  | .planOfPrice _ => Option Str
  | .workspaceOf _ | .workspaceById _ => Option Str
  | _ => Unit

abbrev BillingOp.Answer (op : BillingOp) : Type := Except PyError op.Reply

abbrev Handling := Program BillingOp BillingOp.Answer PyError

/-- `await`, outside of a `try`. -/
def BillingOp.call (op : BillingOp) : Handling op.Reply :=
  .await op fun
    | .ok reply => .done reply
    | .error error => .raised error

/-- `await` in a `try` whose `except` logs. -/
def BillingOp.attempt (op : BillingOp) : Handling (Option op.Reply) :=
  .await op fun
    | .ok reply => .done (some reply)
    | .error _ => .done none

def raising {α : Type} : Except PyError α → Handling α
  | .ok a => .done a
  | .error error => .raised error

/-! ## Handlers -/

section

variable (services : PaddleServices)

/-- `_plan_from_price_id`; the driver refuses an id that is no text. -/
def planFromPriceId : Json → Handling Str
  | .str priceId =>
    if priceId.isEmpty then return "free"
    else do
      match ← (BillingOp.planOfPrice priceId).call with
      | some plan => return plan
      | none =>
        if priceId ∈ services.cloudPriceIds then return "cloud"
        else if priceId ∈ services.teamsPriceIds then return "teams"
        else return "free"
  | _ => .raised .databaseError

def textArgument : Json → Except PyError Str
  | .str text => .ok text
  | _ => .error .databaseError

def uuidArgument (id : Json) : Except PyError Str := do
  let id ← textArgument id
  if services.isUuid id then return id else .error .databaseError

/-- The hash of an id, where there is one: `encode` raises on another type. -/
def idHash (id : Json) : Except PyError (Option Str) :=
  if !id.truthy then .ok none
  else
    match id with
    | .str id => .ok (some (services.lookupHash id))
    | _ => .error .attributeError

/-- What both handlers of a live subscription read off the payload. -/
def subscriptionColumns (data : Json) : Handling (Json × SubscriptionColumns) := do
  let status ← raising (getKey data "status")
  let plan ← planFromPriceId services (extractPriceId data)
  let (priceCents, currency) ← raising (extractPrice services data)
  return (status.orElse (.str "active"),
    { plan, status := [], trialEndsAt := extractTrialEnd services data
      currentPeriodEndsAt := extractPeriodEnd services data
      cancelAtPeriodEnd := extractCancelAtPeriodEnd data, priceCents, currency })

/-- The bounds of a paid period; `None` and no text are falsy. -/
def paidPeriod (data : Json) : Option (Int × Int) :=
  match extractPeriodStart services data, extractPeriodEnd services data with
  | some start, some finish => some (start, finish)
  | _, _ => none

def workspaceIdOf (data : Json) : Except PyError Json := do
  getIn (← getKey data "custom_data") "workspace_id"

/-- `data.get("subscription_id") or (data.get("subscription") or {}).get("id")`. -/
def failedSubscription (data : Json) : Except PyError Json := do
  let id ← getKey data "subscription_id"
  if id.truthy then return id else getIn (← getKey data "subscription") "id"

def handleSubscriptionActivated (data : Json) : Handling Unit := do
  let workspaceId ← raising (workspaceIdOf data)
  let customerId ← raising (getKey data "customer_id")
  let subscriptionId ← raising (getKey data "id")
  let (status, columns) ← subscriptionColumns services data
  if !workspaceId.truthy then return ()
  let customer ← raising (idHash services customerId)
  let subscription ← raising (idHash services subscriptionId)
  let status ← raising (textArgument status)
  let workspaceId ← raising (uuidArgument services workspaceId)
  (BillingOp.activate workspaceId customer subscription { columns with status }).call
  match paidPeriod services data with
  | some (start, finish) =>
    let _ ← (BillingOp.seed workspaceId start finish).attempt
    return ()
  | none => return ()

def handleSubscriptionUpdated (data : Json) : Handling Unit := do
  let subscriptionId ← raising (getKey data "id")
  let (status, columns) ← subscriptionColumns services data
  let subscription ← raising (idHash services subscriptionId)
  let status ← raising (textArgument status)
  (BillingOp.update subscription { columns with status }).call
  match paidPeriod services data with
  | some (start, finish) =>
    match ← (BillingOp.workspaceOf subscription).attempt with
    | some (some workspaceId) =>
      let _ ← (BillingOp.seed workspaceId start finish).attempt
      return ()
    | _ => return ()
  | none => return ()

def handleSubscriptionCanceled (data : Json) : Handling Unit := do
  let subscriptionId ← raising (getKey data "id")
  let subscription ← raising (idHash services subscriptionId)
  (BillingOp.cancel subscription).call

def handlePaymentFailed (data : Json) : Handling Unit := do
  let subscriptionId ← raising (failedSubscription data)
  if !subscriptionId.truthy then return ()
  let subscription ← raising (idHash services subscriptionId)
  (BillingOp.pastDue subscription).call

/-- The workspace of a transaction: `custom_data` first, then the subscription. -/
def transactionWorkspace (workspaceId subscriptionId : Json) : Handling (Option Str) := do
  let byId ← if workspaceId.truthy then do
      (BillingOp.workspaceById (← raising (uuidArgument services workspaceId))).call
    else pure none
  if byId.isNone ∧ subscriptionId.truthy then
    (BillingOp.workspaceOf (← raising (idHash services subscriptionId))).call
  else return byId

/-- `_handle_transaction_completed`: the receipt is sent to whom the statements find; what goes
    wrong with it is logged. -/
def handleTransactionCompleted (data : Json) : Handling Unit := do
  let subscriptionId ← raising (getKey data "subscription_id")
  let workspaceId ← raising (workspaceIdOf data)
  match ← transactionWorkspace services workspaceId subscriptionId with
  | some _ =>
    let _ ← BillingOp.mail.attempt
    return ()
  | none => return ()

def handleApiKeyLifecycle (data : Json) : Handling Unit := do
  let key ← raising (getKey data "key")
  match key.orElse (.str []) with
  | .str key =>
    let last4 := key.drop (key.length - 4)
    if last4.isEmpty || last4.isSuffixOf services.paddleApiKey then BillingOp.mail.call
    else return ()
  | _ => .raised .typeError

structure PaddleEvent where
  eventId : Str
  eventType : Str
  -- `event.get("data", {}) or {}`
  data : Json

/-- The handler that `paddle_webhook` chooses. -/
def handler (event : PaddleEvent) : Handling Unit :=
  let type := event.eventType
  if type = "subscription.activated" ∨ type = "subscription.trialing" then
    handleSubscriptionActivated services event.data
  else if type = "subscription.updated" then handleSubscriptionUpdated services event.data
  else if type = "subscription.canceled" ∨ type = "subscription.paused" then
    handleSubscriptionCanceled services event.data
  else if type = "transaction.payment_failed" then handlePaymentFailed services event.data
  else if type = "transaction.completed" then handleTransactionCompleted services event.data
  else if type = "api_key.expiring" ∨ type = "api_key.expired" ∨ type = "api_key.revoked" then
    handleApiKeyLifecycle services event.data
  else return ()

end

end BurnLens.Backend
