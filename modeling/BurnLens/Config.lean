import BurnLens.Library.Text
import Mathlib.Algebra.Order.Ring.Rat

/-! # Runtime configuration

The parts of the YAML configuration that the modelled code reads.  Amounts of money are
exact rationals.
-/

namespace BurnLens

open Library

abbrev Usd := ℚ

/-- An instant in UTC, in microseconds since 1970-01-01. -/
abbrev Time := Int

structure BudgetPolicy where
  name : Str
  -- "org", "team", "app", "customer" or "model"
  scope : Str
  -- the entity, or "*" for every one
  target : Str
  limitUsd : Usd
  -- "daily", "weekly"; anything else is monthly
  period : Str
deriving DecidableEq

structure TeamBudgetsConfig where
  globalUsd : Option Usd := none
  teams : List (Str × Usd) := []

structure CustomerBudgetsConfig where
  default : Option Usd := none
  customers : List (Str × Usd) := []

/-- Per-API-key daily hard caps; `keys` maps a registered label to its cap. -/
structure ApiKeyBudgetsConfig where
  keys : List (Str × Option Usd) := []
  default : Option Usd := none

/-- `ApiKeyBudgetsConfig.daily_cap_for`, for a label that is not empty. -/
def ApiKeyBudgetsConfig.dailyCapFor (budgets : ApiKeyBudgetsConfig) (label : Str) : Option Usd :=
  match budgets.keys.lookup label with
  | some (some cap) => some cap
  | _ => budgets.default

structure AlertsConfig where
  budgetLimitUsd : Option Usd := none
  budgets : TeamBudgetsConfig := {}
  customerBudgets : CustomerBudgetsConfig := {}

structure RoutingConfig where
  budgetDowngrade : Bool := false
  downgradeThresholdPct : ℚ := 20
  downgradeThresholdUsd : Usd := 5

structure BurnLensConfig where
  alerts : AlertsConfig := {}
  routing : RoutingConfig := {}
  budgetPolicies : List BudgetPolicy := []
  cacheEnabled : Bool := false
  blockUnpricedModels : Bool := true

end BurnLens
