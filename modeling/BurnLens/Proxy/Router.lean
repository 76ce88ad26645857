import BurnLens.Config
import BurnLens.Library.Json
import BurnLens.Providers.Downgrade

/-! # Budget-aware model downgrade routing

`decide_route` compares what is left of the caller's budget with the thresholds and may name a
cheaper model.  It never raises: whatever goes wrong leaves the model as it is.
-/

namespace BurnLens.Proxy

open Library Providers

inductive RouteReason where
  | budgetPct
  | budgetUsd
  | noDowngradeNeeded
  | noAlternative
  | noBudget
  | disabled
  | error
deriving DecidableEq, Repr

structure RouteDecision where
  originalModel : Json
  routedModel : Json
  downgraded : Bool
  reason : RouteReason
  budgetRemainingUsd : Usd
  budgetRemainingPct : ℚ

def RouteDecision.unchanged (model : Json) (reason : RouteReason) (remainingUsd : Usd)
    (remainingPct : ℚ) : RouteDecision :=
  ⟨model, model, false, reason, remainingUsd, remainingPct⟩

/-- The spend of the month as the router reads it, 0 for a name without spend.  A team's spend
    may come from the 60-second cache. -/
structure SpendReads where
  customerSpend : Str → Except PyError Usd
  teamSpend : Str → Except PyError Usd
  totalSpend : Except PyError Usd

/-- `value or other` on optional amounts: zero counts as absent. -/
def orAmount (value other : Option Usd) : Option Usd :=
  match value with
  | some amount => if amount = 0 then other else some amount
  | none => other

def resolveGlobalBudget (alerts : AlertsConfig) (spend : SpendReads) :
    Except PyError (Option (Usd × Usd)) :=
  match orAmount alerts.budgets.globalUsd alerts.budgetLimitUsd with
  | some limit => do return some (limit, ← spend.totalSpend)
  | none => return none

def resolveTeamBudget (tagTeam : Option Str) (alerts : AlertsConfig) (spend : SpendReads) :
    Except PyError (Option (Usd × Usd)) :=
  match tagTeam with
  | none | some [] => resolveGlobalBudget alerts spend
  | some team =>
    match alerts.budgets.teams.lookup team with
    | some limit => do return some (limit, ← spend.teamSpend team)
    | none => resolveGlobalBudget alerts spend

/-- `_resolve_budget`: customer before team before global; the limit and what is spent. -/
def resolveBudget (tagTeam tagCustomer : Option Str) (alerts : AlertsConfig) (spend : SpendReads) :
    Except PyError (Option (Usd × Usd)) :=
  match tagCustomer with
  | none | some [] => resolveTeamBudget tagTeam alerts spend
  | some customer =>
    match orAmount (alerts.customerBudgets.customers.lookup customer)
      alerts.customerBudgets.default with
    | some limit => do return some (limit, ← spend.customerSpend customer)
    | none => resolveTeamBudget tagTeam alerts spend

/-- `get_downgrade_model`, which raises on what is no string: the suffix expression takes no
    number, and a list is no dictionary key. -/
def downgradeModel : Json → Except PyError (Option Str)
  | .str model => .ok (getDowngradeModel model)
  | _ => .error .typeError

def decideRouteInner (model : Json) (tagTeam tagCustomer : Option Str) (config : BurnLensConfig)
    (spend : SpendReads) : Except PyError RouteDecision := do
  if !config.routing.budgetDowngrade then return .unchanged model .disabled 0 100
  else
    match ← resolveBudget tagTeam tagCustomer config.alerts spend with
    | none => return .unchanged model .noBudget 0 100
    | some (limit, spent) =>
      if limit ≤ 0 then return .unchanged model .noBudget 0 100
      else
        let remainingUsd := max 0 (limit - spent)
        let remainingPct := remainingUsd / limit * 100
        let triggered :=
          if remainingPct < config.routing.downgradeThresholdPct then some RouteReason.budgetPct
          else if remainingUsd < config.routing.downgradeThresholdUsd then some .budgetUsd
          else none
        match triggered with
        | none => return .unchanged model .noDowngradeNeeded remainingUsd remainingPct
        | some reason =>
          match ← downgradeModel model with
          | none => return .unchanged model .noAlternative remainingUsd remainingPct
          | some cheaper => return ⟨model, .str cheaper, true, reason, remainingUsd, remainingPct⟩

def decideRoute (model : Json) (tagTeam tagCustomer : Option Str) (config : BurnLensConfig)
    (spend : SpendReads) : RouteDecision :=
  match decideRouteInner model tagTeam tagCustomer config spend with
  | .ok decision => decision
  | .error _ => .unchanged model .error 0 100

/-- A decision leaves the model alone, or replaces a mapped model by its downgrade target. -/
def RouteDecision.Sound (model : Json) (decision : RouteDecision) : Prop :=
  (decision.downgraded = false ∧ decision.routedModel = model) ∨
    ∃ name target, model = .str name ∧ getDowngradeModel name = some target ∧
      decision.downgraded = true ∧ decision.routedModel = .str target

theorem RouteDecision.unchanged_sound (model : Json) (reason : RouteReason) (remainingUsd : Usd)
    (remainingPct : ℚ) : (unchanged model reason remainingUsd remainingPct).Sound model :=
  .inl ⟨rfl, rfl⟩

theorem decideRouteInner_sound {model : Json} {tagTeam tagCustomer : Option Str}
    {config : BurnLensConfig} {spend : SpendReads} {decision : RouteDecision}
    (decided : decideRouteInner model tagTeam tagCustomer config spend = .ok decision) :
    decision.Sound model := by
  simp only [decideRouteInner] at decided
  split at decided
  · cases decided; exact RouteDecision.unchanged_sound ..
  · obtain ⟨budget, -, decided⟩ := bind_eq_ok.mp decided
    split at decided
    · cases decided; exact RouteDecision.unchanged_sound ..
    · split at decided
      · cases decided; exact RouteDecision.unchanged_sound ..
      · split at decided
        · cases decided; exact RouteDecision.unchanged_sound ..
        · obtain ⟨cheaper, mapped, decided⟩ := bind_eq_ok.mp decided
          -- only a string has a downgrade target; anything else raises
          cases model with
          | str name =>
            cases mapped
            split at decided
            · cases decided; exact RouteDecision.unchanged_sound ..
            · next target found =>
              cases decided
              exact .inr ⟨name, target, rfl, found, rfl, rfl⟩
          | _ => cases mapped

theorem decideRoute_sound (model : Json) (tagTeam tagCustomer : Option Str)
    (config : BurnLensConfig) (spend : SpendReads) :
    (decideRoute model tagTeam tagCustomer config spend).Sound model := by
  simp only [decideRoute]
  split
  · next decided => exact decideRouteInner_sound decided
  · exact RouteDecision.unchanged_sound ..

end BurnLens.Proxy
