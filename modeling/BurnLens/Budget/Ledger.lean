import BurnLens.Budget.Policy
import BurnLens.Library.GroupBy
import Mathlib.Algebra.Order.Ring.Rat

/-! # Recorded spend

The columns of `requests` that budgets are computed from, and the queries for what teams and
customers have spent since the first of the month.
-/

namespace BurnLens.Budget

open Library

/-- A row of `requests`; a tag is what `json_extract` finds in the tags column. -/
structure LedgerRow where
  timestamp : Time
  model : Str
  costUsd : Usd
  orgId : Option Str
  team : Option Str
  appId : Option Str
  customerHash : Option Str
  tags : Str → Option Str

/-- `SELECT COALESCE(SUM(cost_usd), 0.0) FROM requests WHERE timestamp >= ? AND ...`. -/
def spendSince (since : Time) (condition : LedgerRow → Bool) (ledger : List LedgerRow) : Usd :=
  sumWhere (fun row => decide (since ≤ row.timestamp) && condition row) LedgerRow.costUsd ledger

def thisMonth (now : Time) (ledger : List LedgerRow) : List LedgerRow :=
  ledger.filter fun row => getPeriodStart "monthly" now ≤ row.timestamp

def spendByTag (tag : Str) (now : Time) (ledger : List LedgerRow) : List (Str × Usd) :=
  groupSum (fun row => row.tags tag) LedgerRow.costUsd (thisMonth now ledger)

def getSpendByTeamThisMonth : Time → List LedgerRow → List (Str × Usd) := spendByTag "team"

def getSpendByCustomerThisMonth : Time → List LedgerRow → List (Str × Usd) := spendByTag "customer"

def totalThisMonth (now : Time) (ledger : List LedgerRow) : Usd :=
  ((thisMonth now ledger).map LedgerRow.costUsd).sum

/-- `column IS NOT NULL OR json_extract(tags, ...) IS NOT NULL` for the target `"*"`, else
    `column = ? OR json_extract(tags, ...) = ?`. -/
def attributeCondition (column : LedgerRow → Option Str) (tag target : Str) (row : LedgerRow) : Bool :=
  if target = "*" then (column row).isSome ∨ (row.tags tag).isSome
  else column row = some target ∨ row.tags tag = some target

/-- The rows that `_calculate_initial_spend` selects; the columns of the team and of the app
    have the two forms of condition, the other scopes each their own. -/
def seedCondition (sha256 : Str → Str) (policy : BudgetPolicy) : Option (LedgerRow → Bool) :=
  if policy.scope = "org" then
    if policy.target = "*" then some fun _ => true
    else some (attributeCondition LedgerRow.orgId "org_id" policy.target)
  else if policy.scope = "team" then some (attributeCondition LedgerRow.team "team" policy.target)
  else if policy.scope = "app" then some (attributeCondition LedgerRow.appId "app_id" policy.target)
  else if policy.scope = "customer" then
    if policy.target = "*" then
      some fun row => row.customerHash.isSome ∨ (row.tags "customer").isSome
    else
      some fun row => row.customerHash = some (sha256 policy.target) ∨
        row.tags "customer" = some policy.target
  else if policy.scope = "model" then
    if policy.target = "*" then some fun _ => true else some fun row => row.model = policy.target
  else none

def calculateInitialSpend (sha256 : Str → Str) (policy : BudgetPolicy) (since : Time)
    (ledger : List LedgerRow) : Usd :=
  match seedCondition sha256 policy with
  | some condition => spendSince since condition ledger
  | none => 0

end BurnLens.Budget
