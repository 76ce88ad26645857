import BurnLens.Alerts.Engine
import BurnLens.Library.Fleet
import BurnLens.Library.LastWrite

/-! # Dispatch of alerts

The checks of one `AlertEngine` on the budgets of the periods, the keys and the customers, any
number of them at once, beside requests that are recorded.  An alert is remembered under the key
that the engine gives it; what it is about, with its period, goes beside the key.
-/

namespace BurnLens.Alerts

open Library Budget

structure BudgetConfig where
  dailyUsd : Option Usd := none
  weeklyUsd : Option Usd := none
  monthlyUsd : Option Usd := none

/-- The local time of an instant, with its fold, and the instant of a local time. -/
structure Zone where
  toLocal : Time → Time × Bool
  toUtc : Time × Bool → Time

/-- A row of `requests`, with its key label. -/
structure SpendRow extends LedgerRow where
  keyLabel : Option Str := none

structure KeyBudgetAlert where
  keyLabel : Str
  spentToday : Usd
  dailyBudget : Usd
  pct : ℚ
  threshold : ℚ
  severity : Severity
deriving DecidableEq

structure EngineConfig where
  alerts : AlertsConfig := {}
  terminal : Bool := true
  -- whether there is a webhook
  slack : Bool := false
  budget : BudgetConfig := {}
  apiKeyBudgets : ApiKeyBudgetsConfig := {}
  -- `resolve_timezone(reset_timezone)`
  zone : Zone
  -- whether `console.print` takes the line of an alert: a label with markup that closes nothing
  -- makes it raise
  printsKey : (provider : Str) → KeyBudgetAlert → Bool := fun _ _ => true
  printsCustomer : CustomerBudgetAlert → Bool := fun _ => true

def EngineConfig.budgetMap (config : EngineConfig) : List (Str × Usd) :=
  let periods : List (Str × Option Usd) := [("daily", config.budget.dailyUsd),
    ("weekly", config.budget.weeklyUsd), ("monthly", config.budget.monthlyUsd)]
  let result := periods.filterMap fun (period, value) => value.map fun value => (period, value)
  match config.alerts.budgetLimitUsd with
  | some limit =>
    if result.any fun entry => entry.1 = ("monthly" : Str) then result
    else result ++ [(("monthly" : Str), limit)]
  | none => result

def defaultThresholds : List ℚ := [80, 90, 100]

structure BudgetAlert where
  period : Str
  budgetUsd : Usd
  spentUsd : Usd
  pctUsed : ℚ
  threshold : ℚ
  periodStart : Time
deriving DecidableEq

/-- The thresholds that a period has crossed. -/
def budgetAlerts (period : Str) (budgetUsd spentUsd : Usd) (periodStart : Time) :
    List BudgetAlert :=
  let pct := spentUsd / budgetUsd * 100
  (defaultThresholds.filter fun threshold => threshold ≤ pct).map fun threshold =>
    ⟨period, budgetUsd, spentUsd, pct, threshold, periodStart⟩

def keyBudgetThresholds : List ℚ := [50, 80, 100]

def Zone.localDay (zone : Zone) (now : Time) : Int := dayNumber (zone.toLocal now).1

/-- The start of `today_window_utc`. -/
def Zone.todayStart (zone : Zone) (now : Time) : Time :=
  zone.toUtc (zone.localDay now * dayMicros, (zone.toLocal now).2)

/-- The body of the loop of `check_key_budgets`. -/
def keyAlert (budgets : ApiKeyBudgetsConfig) (label : Str) (spent : Usd) : Option KeyBudgetAlert :=
  match if label = [] then none else budgets.dailyCapFor label with
  | none => none
  | some cap =>
    if cap ≤ 0 then none
    else
      let pct := spent / cap * 100
      match (keyBudgetThresholds.filter fun threshold => threshold ≤ pct).getLast? with
      | none => none
      | some threshold => some ⟨label, spent, cap, pct, threshold,
          if threshold = 100 then .critical else .warning⟩

def checkKeyBudgets (config : EngineConfig) (now : Time) (rows : List SpendRow) :
    List KeyBudgetAlert :=
  if config.apiKeyBudgets.keys.isEmpty && config.apiKeyBudgets.default.isNone then []
  else
    let today := rows.filter fun row => config.zone.todayStart now ≤ row.timestamp
    (groupSum SpendRow.keyLabel (fun row => row.costUsd) today).filterMap fun entry =>
      keyAlert config.apiKeyBudgets entry.1 entry.2

/-! ## What is fired -/

/-- A key of `_fired`. -/
inductive FiredKey where
  | budget (period : Str) (threshold : ℚ) (periodStart : Time)
  | keyBudget (label : Str) (threshold : ℚ) (date : Int)
  | customer (customer : Str) (severity : Severity)
deriving DecidableEq

/-- What an alert is about: the subject, the threshold or severity, and the period. -/
inductive AlertId where
  | budget (period : Str) (threshold : ℚ) (periodStart : Time)
  | keyBudget (label : Str) (threshold : ℚ) (day : Int)
  | customer (customer : Str) (severity : Severity) (month : Time)
deriving DecidableEq

def BudgetAlert.key (a : BudgetAlert) : FiredKey := .budget a.period a.threshold a.periodStart

def BudgetAlert.id (a : BudgetAlert) : AlertId := .budget a.period a.threshold a.periodStart

/-- The date is the one of the midnight in UTC. -/
def KeyBudgetAlert.entry (date day : Int) (a : KeyBudgetAlert) : FiredKey × AlertId :=
  (.keyBudget a.keyLabel a.threshold date, .keyBudget a.keyLabel a.threshold day)

def CustomerBudgetAlert.entry (month : Time) (a : CustomerBudgetAlert) : FiredKey × AlertId :=
  (.customer a.customer a.severity, .customer a.customer a.severity month)

structure AlertWorld where
  now : Time
  rows : List SpendRow := []
  -- the labels and providers of `api_keys`
  keys : List (Str × Str) := []
  -- whether the database answers
  readable : Bool := true
  fired : List (FiredKey × AlertId) := []
  -- what was dispatched
  sent : List AlertId := []

def AlertWorld.isFired (w : AlertWorld) (key : FiredKey) : Bool := w.fired.any fun f => f.1 = key

section

variable {α : Type} (w : AlertWorld) (entry : α → FiredKey × AlertId)

/-- The alerts that the loop finds to be new. -/
def AlertWorld.unmarked (alerts : List α) : List α :=
  firsts (fun a => (entry a).1) w.isFired alerts

/-- What is new is marked, whatever of the alerts is delivered then. -/
def AlertWorld.mark (alerts delivered : List α) : AlertWorld :=
  { w with
    fired := (w.unmarked entry alerts).map entry ++ w.fired
    sent := delivered.map (fun a => (entry a).2) ++ w.sent }

end

/-- `row["provider"]`, or "unknown". -/
def AlertWorld.provider (w : AlertWorld) (label : Str) : Str :=
  (w.keys.lookup label).getD "unknown"

/-! ## Checks -/

inductive AlertCheck where
  | budgets
  | keyBudgets
  | customerBudgets
deriving DecidableEq

inductive AlertPhase where
  | starting
  -- `check_thresholds`, at the time it began
  | querying (now : Time) (budgets : List (Str × Usd)) (alerts : List BudgetAlert)
  -- the new ones of the alerts that were seen
  | sending (seen : List AlertId) (alerts : List BudgetAlert)
  | markingKeys (day : Int) (alerts : List KeyBudgetAlert)
  | markingCustomers (month : Time) (alerts : List CustomerBudgetAlert)
  | ended (seen : List AlertId)

def AlertWorld.spent (w : AlertWorld) (period : Str) (now : Time) : Usd :=
  spendSince (getPeriodStart period now) (fun _ => true) (w.rows.map SpendRow.toLedgerRow)

def AlertWorld.crossed (w : AlertWorld) (now : Time) (budgets : List (Str × Usd)) :
    List BudgetAlert :=
  budgets.flatMap fun (period, budgetUsd) =>
    if budgetUsd = 0 ∨ !w.readable ∨ w.spent period now = 0 then []
    else budgetAlerts period budgetUsd (w.spent period now) (getPeriodStart period now)

section

variable (config : EngineConfig)

def AlertWorld.printsKey (w : AlertWorld) (a : KeyBudgetAlert) : Bool :=
  config.printsKey (w.provider a.keyLabel) a

/-- The channels of new key alerts: when the console raises, nothing goes to Slack. -/
def AlertWorld.deliverKeys (w : AlertWorld) (new : List KeyBudgetAlert) : List KeyBudgetAlert :=
  if config.terminal ∧ ¬ new.all (w.printsKey config) then
    if config.slack then [] else new.takeWhile (w.printsKey config)
  else new

/-- The terminal shows every alert on a customer, whether it is new or not. -/
def AlertWorld.deliverCustomers (w : AlertWorld) (month : Time)
    (alerts : List CustomerBudgetAlert) : List CustomerBudgetAlert :=
  if config.terminal then alerts.takeWhile config.printsCustomer
  else w.unmarked (CustomerBudgetAlert.entry month) alerts

def AlertWorld.check (w : AlertWorld) (check : AlertCheck) :
    AlertPhase → Option (AlertWorld × AlertPhase)
  | .starting =>
    some (w, match check with
      | .budgets => .querying w.now config.budgetMap []
      | .keyBudgets =>
        if w.readable then
          .markingKeys (config.zone.localDay w.now) (checkKeyBudgets config w.now w.rows)
        else .ended []
      | .customerBudgets =>
        if w.readable then
          .markingCustomers (getPeriodStart "monthly" w.now)
            (checkCustomerBudgets config.alerts.customerBudgets w.now
              (w.rows.map SpendRow.toLedgerRow))
        else .ended [])
  | .querying now ((period, budgetUsd) :: budgets) alerts =>
    let spent := w.spent period now
    some (w,
      if !w.readable then .querying now budgets alerts
      else if spent = 0 then .querying now budgets alerts
      -- the division raises, and ends the check
      else if budgetUsd = 0 then
        .ended ((alerts ++ w.crossed now budgets).map BudgetAlert.id)
      else
        .querying now budgets
          (alerts ++ budgetAlerts period budgetUsd spent (getPeriodStart period now)))
  | .querying _ [] alerts =>
    some (w, .sending (alerts.map BudgetAlert.id) (alerts.filter fun a => !w.isFired a.key))
  | .sending seen (a :: alerts) =>
    some ({ w with fired := (a.key, a.id) :: w.fired, sent := a.id :: w.sent },
      .sending seen alerts)
  | .sending seen [] => some (w, .ended seen)
  | .markingKeys day alerts =>
    let entry := KeyBudgetAlert.entry (dayNumber (config.zone.todayStart w.now)) day
    -- `list_keys`
    if w.readable then
      some (w.mark entry alerts (w.deliverKeys config (w.unmarked entry alerts)),
        .ended (alerts.map fun a => (entry a).2))
    else some (w, .ended [])
  | .markingCustomers month alerts =>
    let entry := CustomerBudgetAlert.entry month
    some (w.mark entry alerts (w.deliverCustomers config month alerts),
      .ended (alerts.map fun a => (entry a).2))
  | .ended _ => none

inductive AlertEvent where
  | tick (now : Time)
  | record (row : SpendRow)
  | register (keys : List (Str × Str))
  | answers (readable : Bool)

def AlertWorld.happen (w : AlertWorld) : AlertEvent → AlertWorld
  | .tick now => { w with now }
  | .record row => { w with rows := row :: w.rows }
  | .register keys => { w with keys }
  | .answers readable => { w with readable }

def alertRoutes : Routes AlertWorld AlertCheck AlertPhase AlertEvent where
  advance := AlertWorld.check config
  happen := AlertWorld.happen

abbrev AlertState := Fleet AlertWorld AlertCheck AlertPhase

abbrev AlertLabel := FleetLabel AlertEvent

def alertMachine : Machine AlertState AlertLabel := (alertRoutes config).machine

end

end BurnLens.Alerts
