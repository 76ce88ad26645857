import BurnLens.Config

/-! # Budget policies: periods, matching and counter rows

The part of `BudgetEngine` that touches no database: the start of the period that a policy
counts over, which policies a request falls under, and the key of the `budget_counters` row
that a policy shares with every other policy of the same name.
-/

namespace BurnLens.Budget

open Library

def dayMicros : Int := 86400000000

def dayNumber (now : Time) : Int := now / dayMicros

/-- `date.weekday()`: Monday is 0, and 1970-01-01 was a Thursday. -/
def weekday (day : Int) : Int := (day + 3) % 7

/-- Days since the first of the month of `day`, in the proleptic Gregorian calendar:
    years are counted from the first of March, so that the leap day comes last. -/
def dayOfMonth (day : Int) : Int :=
  let dayOfEra := (day + 719468) % 146097
  let yearOfEra := (dayOfEra - dayOfEra / 1460 + dayOfEra / 36524 - dayOfEra / 146096) / 365
  let dayOfYear := dayOfEra - (365 * yearOfEra + yearOfEra / 4 - yearOfEra / 100)
  let month := (5 * dayOfYear + 2) / 153
  dayOfYear - (153 * month + 2) / 5

def getPeriodStart (period : Str) (now : Time) : Time :=
  let day := dayNumber now
  if period = "daily" then day * dayMicros
  else if period = "weekly" then (day - weekday day) * dayMicros
  else (day - dayOfMonth day) * dayMicros

-- 2024-03-15T12:00 is a Friday; its month began on 2024-03-01 and its week on 2024-03-11
example : getPeriodStart "monthly" 1710504000000000 = 1709251200000000 := by decide
example : getPeriodStart "weekly" 1710504000000000 = 1710115200000000 := by decide

structure RequestContext where
  orgId : Option Str
  team : Option Str
  appId : Option Str
  customer : Option Str

def matchesPolicy (policy : BudgetPolicy) (model : Str) (context : RequestContext) : Bool :=
  let value : Option Str :=
    if policy.scope = "org" then context.orgId
    else if policy.scope = "team" then context.team
    else if policy.scope = "app" then context.appId
    else if policy.scope = "customer" then context.customer
    else if policy.scope = "model" then some model
    else none
  match value with
  | none => false
  | some [] => false
  | some value => policy.target = "*" || policy.target = value

abbrev PolicyPeriod := BudgetPolicy × Time

def matchingPolicies (policies : List BudgetPolicy) (model : Str) (context : RequestContext)
    (now : Time) : List PolicyPeriod :=
  (policies.filter fun policy => matchesPolicy policy model context).map
    fun policy => (policy, getPeriodStart policy.period now)

/-- Primary key of `budget_counters`.  It holds the policy's name and not its scope or
    target: two policies of one name share a row when their periods start together. -/
structure CounterKey where
  policyName : Str
  periodStart : Time
deriving DecidableEq

def counterKey (entry : PolicyPeriod) : CounterKey :=
  ⟨entry.1.name, entry.2⟩

def counterKeys (entries : List PolicyPeriod) : List CounterKey :=
  entries.map counterKey

@[simp] theorem counterKeys_nil : counterKeys [] = [] := rfl

@[simp] theorem counterKeys_cons (entry : PolicyPeriod) (entries : List PolicyPeriod) :
    counterKeys (entry :: entries) = counterKey entry :: counterKeys entries := rfl

end BurnLens.Budget
