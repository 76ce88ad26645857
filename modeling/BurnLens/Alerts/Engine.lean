import BurnLens.Budget.Ledger

/-! # Budget alerts

The checks of the alert engine on the monthly budgets of customers and teams.
-/

namespace BurnLens.Alerts

open Library Budget

inductive Severity where
  | warning
  | critical
deriving DecidableEq, Repr

structure CustomerBudgetAlert where
  customer : Str
  spent : Usd
  limit : Usd
  pct : ℚ
  severity : Severity
deriving DecidableEq

structure TeamBudgetAlert where
  team : Str
  spent : Usd
  limit : Usd
  severity : Severity
deriving DecidableEq

/-- `bool(value)` of an optional amount. -/
def amountSet (amount : Option Usd) : Bool :=
  match amount with
  | some amount => amount ≠ 0
  | none => false

/-- The body of the loop of `check_customer_budgets`. -/
def customerAlert (budgets : CustomerBudgetsConfig) (customer : Str) (spent : Usd) :
    Option CustomerBudgetAlert :=
  -- `customers.get(customer, default)`
  match (budgets.customers.lookup customer).or budgets.default with
  | none => none
  | some limit =>
    if limit = 0 then none
    else
      let pct := spent / limit * 100
      if 100 ≤ pct then some ⟨customer, spent, limit, pct, .critical⟩
      else if 80 ≤ pct then some ⟨customer, spent, limit, pct, .warning⟩
      else none

def checkCustomerBudgets (budgets : CustomerBudgetsConfig) (now : Time) (ledger : List LedgerRow) :
    List CustomerBudgetAlert :=
  if budgets.customers.isEmpty && !amountSet budgets.default then []
  else
    (getSpendByCustomerThisMonth now ledger).filterMap fun entry =>
      customerAlert budgets entry.1 entry.2

/-- The body of the loop of `check_team_budgets`. -/
def teamAlert (team : Str) (limit spent : Usd) : Option TeamBudgetAlert :=
  if limit ≤ spent then some ⟨team, spent, limit, .critical⟩
  else if 8 / 10 * limit ≤ spent then some ⟨team, spent, limit, .warning⟩
  else none

/-- `d.items()`: of several entries with one key, the dictionary has the one that a lookup finds. -/
def items (entries : List (Str × Usd)) : List (Str × Usd) :=
  entries.filter fun entry => entries.lookup entry.1 = some entry.2

def checkTeamBudgets (budgets : TeamBudgetsConfig) (now : Time) (ledger : List LedgerRow) :
    List TeamBudgetAlert :=
  (items budgets.teams).filterMap fun entry =>
    teamAlert entry.1 entry.2 (((getSpendByTeamThisMonth now ledger).lookup entry.1).getD 0)

end BurnLens.Alerts
