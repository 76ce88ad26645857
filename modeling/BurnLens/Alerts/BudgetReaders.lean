import BurnLens.Alerts.Engine
import BurnLens.Proxy.Interceptor
import Mathlib.Tactic.Linarith
import Mathlib.Algebra.Order.Field.Basic

/-! # The readers of a monthly budget

The router, the gate that answers 429 and the alert checks each resolve the limits of a customer
or a team on their own.  They agree exactly where no customer limit is zero or negative, and
where the spend of requests without a team is nothing to a global limit.
-/

namespace BurnLens.Alerts

open Library Budget Proxy

def customerSpend (now : Time) (ledger : List LedgerRow) (customer : Str) : Usd :=
  ((getSpendByCustomerThisMonth now ledger).lookup customer).getD 0

def teamSpend (now : Time) (ledger : List LedgerRow) (team : Str) : Usd :=
  ((getSpendByTeamThisMonth now ledger).lookup team).getD 0

/-- The queries of the router; nothing is cached of a team. -/
def routerReads (now : Time) (ledger : List LedgerRow) : SpendReads where
  customerSpend customer := .ok (customerSpend now ledger customer)
  teamSpend team := .ok (teamSpend now ledger team)
  totalSpend := .ok ((getSpendByTeamThisMonth now ledger).map Prod.snd).sum

/-- The limit and the spend that `check_customer_budget` compares; nothing is cached. -/
def gateBudget (budgets : CustomerBudgetsConfig) (now : Time) (ledger : List LedgerRow)
    (customer : Str) : Option (Usd × Usd) :=
  (customerBudgetLimit customer budgets).map fun limit => (limit, customerSpend now ledger customer)

def GateRefuses (budgets : CustomerBudgetsConfig) (now : Time) (ledger : List LedgerRow)
    (customer : Str) : Prop :=
  ∃ limit spent, gateBudget budgets now ledger customer = some (limit, spent) ∧ limit ≤ spent

def routerCustomerBudget (alerts : AlertsConfig) (now : Time) (ledger : List LedgerRow)
    (customer : Str) : Except PyError (Option (Usd × Usd)) :=
  resolveBudget none (some customer) { customerBudgets := alerts.customerBudgets }
    (routerReads now ledger)

def routerTeamBudget (alerts : AlertsConfig) (now : Time) (ledger : List LedgerRow)
    (team : Str) : Except PyError (Option (Usd × Usd)) :=
  resolveBudget (some team) none { budgets := { teams := alerts.budgets.teams } }
    (routerReads now ledger)

/-! ## Agreement -/

structure CustomerReadersAgree (alerts : AlertsConfig) (now : Time) (ledger : List LedgerRow)
    (customer : Str) : Prop where
  router : routerCustomerBudget alerts now ledger customer =
    .ok (gateBudget alerts.customerBudgets now ledger customer)
  alert : ∀ alert ∈ checkCustomerBudgets alerts.customerBudgets now ledger,
    alert.customer = customer →
      gateBudget alerts.customerBudgets now ledger customer = some (alert.limit, alert.spent)
  critical : GateRefuses alerts.customerBudgets now ledger customer ↔
    ∃ alert ∈ checkCustomerBudgets alerts.customerBudgets now ledger,
      alert.customer = customer ∧ alert.severity = .critical

structure TeamReadersAgree (alerts : AlertsConfig) (now : Time) (ledger : List LedgerRow)
    (team : Str) : Prop where
  alert : ∀ alert ∈ checkTeamBudgets alerts.budgets now ledger, alert.team = team →
    routerTeamBudget alerts now ledger team = .ok (some (alert.limit, alert.spent))
  critical : (∃ limit spent, routerTeamBudget alerts now ledger team = .ok (some (limit, spent)) ∧
      limit ≤ spent) ↔
    ∃ alert ∈ checkTeamBudgets alerts.budgets now ledger,
      alert.team = team ∧ alert.severity = .critical

/-- All readers use the same limits and the same spend. -/
structure BudgetReadersAgree (alerts : AlertsConfig) (now : Time) (ledger : List LedgerRow) :
    Prop where
  customers : ∀ customer ≠ [], CustomerReadersAgree alerts now ledger customer
  teams : ∀ team ≠ [], TeamReadersAgree alerts now ledger team
  workspace : ∀ limit spent, resolveBudget none none alerts (routerReads now ledger) =
    .ok (some (limit, spent)) → spent = totalThisMonth now ledger

/-- The limit of the customer is positive.  (Amounts below zero make up for one that is not:
    a spend below a limit of 0 that is also the default, or one that equals a negative limit.) -/
def LimitEnforceable (budgets : CustomerBudgetsConfig) (customer : Str) (spent : Usd) : Prop :=
  ∀ limit, customerBudgetLimit customer budgets = some limit →
    0 < limit ∨ (limit = 0 ∧ spent < 0 ∧ budgets.default = some 0) ∨ (limit < 0 ∧ spent = limit)

def teamlessSpend (now : Time) (ledger : List LedgerRow) : Usd :=
  sumWhere (fun row => !(row.tags "team").isSome) LedgerRow.costUsd (thisMonth now ledger)

section Customers

variable {alerts : AlertsConfig} {budgets : CustomerBudgetsConfig} {now : Time}
  {ledger : List LedgerRow} {customer : Str}

theorem routerCustomerBudget_eq (named : customer ≠ []) :
    routerCustomerBudget alerts now ledger customer =
      .ok ((orAmount (alerts.customerBudgets.customers.lookup customer)
        alerts.customerBudgets.default).map fun limit => (limit, customerSpend now ledger customer)) := by
  obtain ⟨c, rest, rfl⟩ := List.exists_cons_of_ne_nil named
  simp only [routerCustomerBudget, resolveBudget]
  cases orAmount (alerts.customerBudgets.customers.lookup (c :: rest))
    alerts.customerBudgets.default <;> rfl

/-- The router and the gate differ where the customer's own limit is 0 and the default is not. -/
theorem router_eq_gate_iff (named : customer ≠ []) :
    routerCustomerBudget alerts now ledger customer =
        .ok (gateBudget alerts.customerBudgets now ledger customer) ↔
      (alerts.customerBudgets.customers.lookup customer = some 0 →
        alerts.customerBudgets.default = some 0) := by
  rw [routerCustomerBudget_eq named, gateBudget, customerBudgetLimit, Except.ok.injEq,
    Option.map_inj_right fun _ _ same => (Prod.mk.inj same).1]
  cases alerts.customerBudgets.customers.lookup customer with
  | none => simp [orAmount]
  | some limit =>
    by_cases zero : limit = 0
    · simp [orAmount, zero]
    · simp [orAmount, zero]

/-- Where the check returns early, no customer has a limit to compare with. -/
theorem customerAlert_of_unset (unset : (budgets.customers.isEmpty && !amountSet budgets.default) = true)
    (customer : Str) (spent : Usd) : customerAlert budgets customer spent = none := by
  obtain ⟨empty, zero⟩ := Bool.and_eq_true_iff.mp unset
  rw [List.isEmpty_iff] at empty
  simp only [customerAlert, empty, List.lookup_nil, Option.none_or]
  cases default : budgets.default with
  | none => rfl
  | some limit =>
    have none : limit = 0 := by simpa [amountSet, default] using zero
    simp [none]

theorem mem_checkCustomerBudgets {alert : CustomerBudgetAlert} :
    alert ∈ checkCustomerBudgets budgets now ledger ↔
      ∃ customer spent, (getSpendByCustomerThisMonth now ledger).lookup customer = some spent ∧
        customerAlert budgets customer spent = some alert := by
  simp only [checkCustomerBudgets]
  split
  · next unset => simp [customerAlert_of_unset unset]
  · simp only [List.mem_filterMap, Prod.exists, getSpendByCustomerThisMonth, spendByTag,
      mem_iff_lookup (nodup_groupSum ..)]

theorem customerAlert_eq_some {spent : Usd} {alert : CustomerBudgetAlert}
    (raised : customerAlert budgets customer spent = some alert) :
    alert.customer = customer ∧ alert.spent = spent ∧
      customerBudgetLimit customer budgets = some alert.limit := by
  simp only [customerAlert] at raised
  rw [customerBudgetLimit]
  split at raised
  · cases raised
  · next limit applies =>
    rw [applies]
    split_ifs at raised
    · cases raised; exact ⟨rfl, rfl, rfl⟩
    · cases raised; exact ⟨rfl, rfl, rfl⟩

theorem alert_eq_gate {alert : CustomerBudgetAlert}
    (raised : alert ∈ checkCustomerBudgets budgets now ledger) :
    gateBudget budgets now ledger alert.customer = some (alert.limit, alert.spent) := by
  obtain ⟨customer, spent, grouped, raised⟩ := mem_checkCustomerBudgets.mp raised
  obtain ⟨rfl, rfl, limit⟩ := customerAlert_eq_some raised
  rw [gateBudget, limit, customerSpend, grouped]
  rfl

/-- Reported as critical is a customer with rows and a limit other than 0 that is reached. -/
theorem critical_iff :
    (∃ alert ∈ checkCustomerBudgets budgets now ledger,
      alert.customer = customer ∧ alert.severity = .critical) ↔
    ∃ limit, customerBudgetLimit customer budgets = some limit ∧ limit ≠ 0 ∧
      ∃ spent, (getSpendByCustomerThisMonth now ledger).lookup customer = some spent ∧
        100 ≤ spent / limit * 100 := by
  constructor
  · rintro ⟨⟨_, _, _, _, _⟩, raised, about, critical⟩
    obtain ⟨other, spent, grouped, raised⟩ := mem_checkCustomerBudgets.mp raised
    obtain ⟨same, -, applies⟩ := customerAlert_eq_some raised
    obtain rfl : other = customer := same.symm.trans about
    rw [customerBudgetLimit] at applies ⊢
    simp only [customerAlert, applies] at raised
    split_ifs at raised with zero reached near
    · cases raised; exact ⟨_, applies, zero, _, grouped, reached⟩
    · cases raised; cases critical
  · rintro ⟨limit, applies, nonzero, spent, grouped, reached⟩
    refine ⟨⟨customer, spent, limit, spent / limit * 100, .critical⟩,
      mem_checkCustomerBudgets.mpr ⟨customer, spent, grouped, ?_⟩, rfl, rfl⟩
    rw [customerBudgetLimit] at applies
    simp only [customerAlert, applies, if_neg nonzero, if_pos reached]

theorem reached_of_pos {limit spent : Usd} (positive : 0 < limit) :
    100 ≤ spent / limit * 100 ↔ limit ≤ spent := by
  rw [← one_le_div positive]
  constructor <;> intro <;> linarith

theorem reached_of_neg {limit spent : Usd} (negative : limit < 0) :
    100 ≤ spent / limit * 100 ↔ spent ≤ limit := by
  rw [← one_le_div_of_neg negative]
  constructor <;> intro <;> linarith

theorem gateRefuses_iff : GateRefuses budgets now ledger customer ↔
    ∃ limit, customerBudgetLimit customer budgets = some limit ∧
      limit ≤ customerSpend now ledger customer := by
  simp only [GateRefuses, gateBudget, Option.map_eq_some_iff, Prod.mk.injEq]
  constructor
  · rintro ⟨_, _, ⟨limit, applies, rfl, rfl⟩, reached⟩
    exact ⟨limit, applies, reached⟩
  · rintro ⟨limit, applies, reached⟩
    exact ⟨limit, _, ⟨limit, applies, rfl, rfl⟩, reached⟩

theorem refused_iff_critical {limit : Usd} (applies : customerBudgetLimit customer budgets = some limit) :
    (GateRefuses budgets now ledger customer ↔ ∃ alert ∈ checkCustomerBudgets budgets now ledger,
        alert.customer = customer ∧ alert.severity = .critical) ↔
      0 < limit ∨ (limit = 0 ∧ customerSpend now ledger customer < 0) ∨
        (limit < 0 ∧ customerSpend now ledger customer = limit) := by
  simp only [gateRefuses_iff, critical_iff, applies, Option.some.injEq, exists_eq_left']
  obtain negative | rfl | positive := lt_trichotomy limit 0
  · simp only [reached_of_neg negative, negative.ne, negative.not_gt, negative, ne_eq, not_false_eq_true,
      true_and, false_and, false_or, customerSpend]
    cases (getSpendByCustomerThisMonth now ledger).lookup customer with
    | none => simp [negative.le, negative.ne']
    | some spent =>
      simp only [Option.some.injEq, exists_eq_left', Option.getD_some]
      exact ⟨fun same => by
        obtain below | above := le_total spent limit
        · exact le_antisymm below (same.mpr below)
        · exact le_antisymm (same.mp above) above, fun equal => by rw [equal]⟩
  · simp
  · simp only [reached_of_pos positive, positive.ne', positive, ne_eq, not_false_eq_true, true_and,
      true_or, iff_true, customerSpend]
    cases (getSpendByCustomerThisMonth now ledger).lookup customer with
    | none => simp [positive]
    | some spent => simp

theorem customerReadersAgree_iff (named : customer ≠ []) :
    CustomerReadersAgree alerts now ledger customer ↔
      LimitEnforceable alerts.customerBudgets customer (customerSpend now ledger customer) := by
  have split : CustomerReadersAgree alerts now ledger customer ↔
      (alerts.customerBudgets.customers.lookup customer = some 0 →
        alerts.customerBudgets.default = some 0) ∧
      (GateRefuses alerts.customerBudgets now ledger customer ↔
        ∃ alert ∈ checkCustomerBudgets alerts.customerBudgets now ledger,
          alert.customer = customer ∧ alert.severity = .critical) := by
    have router : routerCustomerBudget alerts now ledger customer =
        .ok (gateBudget alerts.customerBudgets now ledger customer) ↔ _ := router_eq_gate_iff named
    rw [← router]
    exact ⟨fun agree => ⟨agree.router, agree.critical⟩, fun agree => ⟨agree.1,
      fun alert raised same => same ▸ alert_eq_gate raised, agree.2⟩⟩
  rw [split, LimitEnforceable]
  cases applies : customerBudgetLimit customer alerts.customerBudgets with
  | none =>
    -- without a limit nobody refuses or reports, and no limit is 0
    have unset := applies
    simp only [customerBudgetLimit, Option.or_eq_none_iff] at unset
    simp [gateRefuses_iff, critical_iff, applies, unset]
  | some limit =>
    rw [refused_iff_critical applies]
    simp only [Option.some.injEq, forall_eq']
    rw [customerBudgetLimit] at applies
    have zero : (alerts.customerBudgets.customers.lookup customer = some 0 →
        alerts.customerBudgets.default = some 0) ↔
        (limit = 0 → alerts.customerBudgets.default = some 0) := by
      cases own : alerts.customerBudgets.customers.lookup customer with
      | none =>
        rw [own, Option.none_or] at applies
        simp [applies]
      | some amount =>
        rw [own, Option.some_or, Option.some.injEq] at applies
        simp [applies]
    rw [zero]
    obtain negative | rfl | positive := lt_trichotomy limit 0
    · simp [negative, negative.ne, negative.not_gt]
    · simp [and_comm]
    · simp [positive, positive.ne']

/-- The handler answers 429 to the customers that the gate refuses. -/
theorem checkCustomerBudget_rejects_iff {env : Env} {provider : Providers.Provider}
    {identified : Identified} {tags : Tags} (named : customer ≠ [])
    (tagged : tags "customer" = some customer) (configured : env.customerBudgets = some budgets)
    (fresh : env.customerSpend customer = .ok (customerSpend now ledger customer))
    (priced : identified.unpriced = false) :
    (∃ spent limit, checkCustomerBudget env provider identified tags =
      .error (.rejected (.budgetExceeded customer spent limit))) ↔
      GateRefuses budgets now ledger customer := by
  obtain ⟨c, rest, rfl⟩ := List.exists_cons_of_ne_nil named
  simp only [gateRefuses_iff, checkCustomerBudget, tagged, configured, priced, fresh, reject,
    Bool.false_eq_true, if_false]
  cases customerBudgetLimit (c :: rest) budgets with
  | none => simp [pure, Except.pure]
  | some limit =>
    by_cases within : customerSpend now ledger (c :: rest) < limit
    · simp [within, within.not_ge, pure, Except.pure]
    · simp [within, not_lt.mp within]

end Customers

/-! ## Teams and the workspace -/

section Teams

variable {alerts : AlertsConfig} {now : Time} {ledger : List LedgerRow} {team : Str}

theorem routerTeamBudget_eq (named : team ≠ []) :
    routerTeamBudget alerts now ledger team =
      .ok ((alerts.budgets.teams.lookup team).map fun limit => (limit, teamSpend now ledger team)) := by
  obtain ⟨c, rest, rfl⟩ := List.exists_cons_of_ne_nil named
  simp only [routerTeamBudget, resolveBudget, resolveTeamBudget]
  cases alerts.budgets.teams.lookup (c :: rest) <;> rfl

theorem mem_items {entries : List (Str × Usd)} {name : Str} {amount : Usd} :
    (name, amount) ∈ items entries ↔ entries.lookup name = some amount := by
  simp only [items, List.mem_filter, decide_eq_true_eq, and_iff_right_iff_imp]
  intro found
  obtain ⟨front, back, rfl, -⟩ := List.lookup_eq_some_iff.mp found
  exact List.mem_append_right _ List.mem_cons_self

theorem mem_checkTeamBudgets {alert : TeamBudgetAlert} :
    alert ∈ checkTeamBudgets alerts.budgets now ledger ↔
      ∃ team limit, alerts.budgets.teams.lookup team = some limit ∧
        teamAlert team limit (teamSpend now ledger team) = some alert := by
  simp only [checkTeamBudgets, List.mem_filterMap, Prod.exists, mem_items, teamSpend]

theorem teamAlert_eq_some {limit spent : Usd} {alert : TeamBudgetAlert}
    (raised : teamAlert team limit spent = some alert) :
    alert.team = team ∧ alert.limit = limit ∧ alert.spent = spent ∧
      (alert.severity = .critical ↔ limit ≤ spent) := by
  simp only [teamAlert] at raised
  split_ifs at raised with reached near
  · cases raised; exact ⟨rfl, rfl, rfl, by simp [reached]⟩
  · cases raised; exact ⟨rfl, rfl, rfl, by simp [reached]⟩

theorem teamReadersAgree (named : team ≠ []) : TeamReadersAgree alerts now ledger team where
  alert alert raised same := by
    obtain ⟨other, limit, applies, raised⟩ := mem_checkTeamBudgets.mp raised
    obtain ⟨about, sameLimit, sameSpent, -⟩ := teamAlert_eq_some raised
    obtain rfl : other = team := about.symm.trans same
    rw [routerTeamBudget_eq named, applies, sameLimit, sameSpent]
    rfl
  critical := by
    rw [routerTeamBudget_eq named]
    simp only [Except.ok.injEq, Option.map_eq_some_iff, Prod.mk.injEq]
    constructor
    · rintro ⟨_, _, ⟨limit, applies, rfl, rfl⟩, reached⟩
      have raised : teamAlert team limit (teamSpend now ledger team) =
          some ⟨team, teamSpend now ledger team, limit, .critical⟩ := if_pos reached
      exact ⟨_, mem_checkTeamBudgets.mpr ⟨team, limit, applies, raised⟩, rfl, rfl⟩
    · rintro ⟨alert, raised, same, critical⟩
      obtain ⟨other, limit, applies, raised⟩ := mem_checkTeamBudgets.mp raised
      obtain ⟨about, -, -, severe⟩ := teamAlert_eq_some raised
      obtain rfl : other = team := about.symm.trans same
      exact ⟨limit, _, ⟨limit, applies, rfl, rfl⟩, severe.mp critical⟩

theorem teams_add_teamless :
    ((getSpendByTeamThisMonth now ledger).map Prod.snd).sum + teamlessSpend now ledger =
      totalThisMonth now ledger := by
  rw [getSpendByTeamThisMonth, spendByTag, sum_groupSum, teamlessSpend, totalThisMonth,
    ← sumWhere_true]
  exact (sumWhere_split (fun _ => (Bool.or_not_self _).symm) (fun _ => Bool.and_not_self _) _ _).symm

theorem workspace_agrees_iff :
    (∀ limit spent, resolveBudget none none alerts (routerReads now ledger) =
      .ok (some (limit, spent)) → spent = totalThisMonth now ledger) ↔
    orAmount alerts.budgets.globalUsd alerts.budgetLimitUsd = none ∨ teamlessSpend now ledger = 0 := by
  simp only [resolveBudget, resolveTeamBudget, resolveGlobalBudget]
  cases orAmount alerts.budgets.globalUsd alerts.budgetLimitUsd with
  | none => simp [pure, Except.pure]
  | some limit =>
    simp only [routerReads, bind, Except.bind, pure, Except.pure, Except.ok.injEq, Option.some.injEq,
      Prod.mk.injEq, and_imp, reduceCtorEq, false_or, ← teams_add_teamless]
    constructor
    · intro agrees
      exact left_eq_add.mp (agrees limit _ rfl rfl)
    · rintro nothing _ _ - rfl
      rw [nothing, add_zero]

end Teams

/-- The readers of the monthly budgets agree exactly where every customer limit can be enforced,
    and where no team-less spend is left out of a global budget. -/
theorem budgetReadersAgree_iff (alerts : AlertsConfig) (now : Time) (ledger : List LedgerRow) :
    BudgetReadersAgree alerts now ledger ↔
      (∀ customer ≠ [], LimitEnforceable alerts.customerBudgets customer
        (customerSpend now ledger customer)) ∧
      (orAmount alerts.budgets.globalUsd alerts.budgetLimitUsd = none ∨
        teamlessSpend now ledger = 0) := by
  rw [← workspace_agrees_iff]
  constructor
  · intro agree
    exact ⟨fun customer named => (customerReadersAgree_iff named).mp (agree.customers customer named),
      agree.workspace⟩
  · rintro ⟨enforceable, workspace⟩
    exact ⟨fun customer named => (customerReadersAgree_iff named).mpr (enforceable customer named),
      fun team named => teamReadersAgree named, workspace⟩

/-- A customer that is capped at 0 dollars is refused, and no alert says so. -/
theorem zero_cap_unreported :
    ¬ ∀ alerts now ledger, BudgetReadersAgree alerts now ledger := by
  intro agree
  have customers := (agree { customerBudgets := { customers := [("acme", 0)] } } 0 []).customers
  have refused : GateRefuses { customers := [("acme", 0)] } 0 [] "acme" := ⟨0, 0, rfl, le_rfl⟩
  obtain ⟨alert, raised, -⟩ := (customers "acme" (by decide)).critical.mp refused
  cases raised

end BurnLens.Alerts
