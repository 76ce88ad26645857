import BurnLens.Config
import BurnLens.Providers.Registry

/-! # Model pricing

The pricing tables are data: one list of models for each pricing key.  A row holds rates in USD
per million tokens, price changes that take effect on a date, and rates for long prompts.
-/

namespace BurnLens.Cost

open Library Providers

abbrev Date := Int

/-- The rates of a pricing row; a rate that the row does not give is absent. -/
structure Rates where
  inputPerMillion : Option ℚ := none
  outputPerMillion : Option ℚ := none
  reasoningPerMillion : Option ℚ := none
  cacheReadPerMillion : Option ℚ := none
  cacheWritePerMillion : Option ℚ := none
  audioInputPerMillion : Option ℚ := none
  audioOutputPerMillion : Option ℚ := none
  unitPrices : Option (List (Str × ℚ)) := none

def Rates.update (base changes : Rates) : Rates where
  inputPerMillion := changes.inputPerMillion <|> base.inputPerMillion
  outputPerMillion := changes.outputPerMillion <|> base.outputPerMillion
  reasoningPerMillion := changes.reasoningPerMillion <|> base.reasoningPerMillion
  cacheReadPerMillion := changes.cacheReadPerMillion <|> base.cacheReadPerMillion
  cacheWritePerMillion := changes.cacheWritePerMillion <|> base.cacheWritePerMillion
  audioInputPerMillion := changes.audioInputPerMillion <|> base.audioInputPerMillion
  audioOutputPerMillion := changes.audioOutputPerMillion <|> base.audioOutputPerMillion
  unitPrices := changes.unitPrices <|> base.unitPrices

structure ScheduledTier where
  effective : Date
  rates : Rates

structure Tier where
  -- exclusive: `over` tokens are not over it
  overTokens : Int
  rates : Rates

structure PricingRow where
  rates : Rates
  scheduled : List ScheduledTier := []
  tiered : List Tier := []

/-- Pricing key to the models of `pricing_data/{key}.json`. -/
abbrev PricingTables := Str → List (Str × PricingRow)

/-- The tier in effect: the latest one whose date has come, the later in the list on a tie. -/
def activeScheduled (today : Date) : List ScheduledTier → Option ScheduledTier → Option ScheduledTier
  | [], active => active
  | tier :: tiers, active =>
    let newer : Bool := match active with
      | none => true
      | some active => active.effective ≤ tier.effective
    activeScheduled today tiers (if tier.effective ≤ today ∧ newer then some tier else active)

def applyScheduled (pricing : PricingRow) (today : Date) : PricingRow :=
  match activeScheduled today pricing.scheduled none with
  | some tier => { pricing with rates := pricing.rates.update tier.rates, scheduled := [] }
  | none => { pricing with scheduled := [] }

def Tier.above (tier : Tier) : Option Tier → Bool
  | none => true
  | some active => active.overTokens < tier.overTokens

def activeTier (inputTokens : Number) : List Tier → Option Tier → Option Tier
  | [], active => active
  | tier :: tiers, active =>
    activeTier inputTokens tiers
      (if inputTokens.exceeds tier.overTokens ∧ tier.above active then some tier else active)

/-- `apply_tiered`: the comparison raises on what is no number, and is made only where the row
    has tiers. -/
def applyTiered (pricing : PricingRow) (inputTokens : Json) : Except PyError Rates :=
  if pricing.tiered.isEmpty then .ok pricing.rates
  else do
    let tokens ← inputTokens.number
    match activeTier tokens pricing.tiered none with
    | some tier => return pricing.rates.update tier.rates
    | none => return pricing.rates

/-- The row of the longest name that begins the model's name, the first of that length. -/
def longestPrefix (model : Str) : List (Str × PricingRow) → Option (Str × PricingRow) →
    Option (Str × PricingRow)
  | [], best => best
  | entry :: entries, best =>
    let longer : Bool := match best with
      | none => true
      | some best => best.1.length < entry.1.length
    longestPrefix model entries (if startsWith entry.1 model ∧ longer then some entry else best)

def resolvePricingKey (provider : Str) : Str :=
  match registered provider with
  | some p => p.config.pricingKey
  | none => provider

/-- `get_model_pricing`.  A model that is no string has no prefix, and a list or an object
    cannot be looked up at all. -/
def getModelPricing (tables : PricingTables) (today : Date) (provider : Str) (model : Json) :
    Except PyError (Option PricingRow) :=
  match tables (resolvePricingKey provider) with
  | [] => .ok none
  | models =>
    match model with
    | .str model =>
      let base := match models.lookup model with
        | some row => some row
        | none =>
          match longestPrefix model models none with
          | some (known, row) => if known.isEmpty then none else some row
          | none => none
      .ok (base.map fun row => applyScheduled row today)
    | .arr _ | .obj _ => .error .typeError
    | _ => .error .attributeError

/-! ## Rates in effect -/

structure PricingRow.Positive (pricing : PricingRow) : Prop where
  input : ∃ rate, pricing.rates.inputPerMillion = some rate ∧ 0 < rate
  output : ∃ rate, pricing.rates.outputPerMillion = some rate ∧ 0 < rate
  tierInput : ∀ tier ∈ pricing.tiered, ∀ rate, tier.rates.inputPerMillion = some rate → 0 < rate
  tierOutput : ∀ tier ∈ pricing.tiered, ∀ rate, tier.rates.outputPerMillion = some rate → 0 < rate

theorem activeTier_mem {tokens : Number} {tiers : List Tier} {active : Option Tier} {tier : Tier}
    (found : activeTier tokens tiers active = some tier) : tier ∈ tiers ∨ active = some tier := by
  induction tiers generalizing active with
  | nil => exact .inr found
  | cons first tiers inductionHypothesis =>
    -- the tier that is active at the end was so from the start, or one of the rest
    simp only [activeTier] at found
    cases inductionHypothesis found with
    | inl member => exact .inl (List.mem_cons_of_mem first member)
    | inr kept =>
      split at kept
      · cases kept; exact .inl List.mem_cons_self
      · exact .inr kept

theorem applyTiered_rates {pricing : PricingRow} {inputTokens : Json} {rates : Rates}
    (applied : applyTiered pricing inputTokens = .ok rates) :
    rates = pricing.rates ∨ ∃ tier ∈ pricing.tiered, rates = pricing.rates.update tier.rates := by
  simp only [applyTiered] at applied
  split at applied
  · cases applied; exact .inl rfl
  · cases counted : inputTokens.number with
    | error error => simp [counted, bind, Except.bind] at applied
    | ok tokens =>
      cases active : activeTier tokens pricing.tiered none with
      | none =>
        simp [counted, active, bind, Except.bind, pure, Except.pure] at applied
        exact .inl applied.symm
      | some tier =>
        simp [counted, active, bind, Except.bind, pure, Except.pure] at applied
        cases activeTier_mem active with
        | inl member => exact .inr ⟨tier, member, applied.symm⟩
        -- the search for a tier starts without one
        | inr impossible => cases impossible

theorem applyTiered_isOk (pricing : PricingRow) (inputTokens : Json) :
    (applyTiered pricing inputTokens).isOk =
      (pricing.tiered.isEmpty || inputTokens.number.isOk) := by
  simp only [applyTiered]
  cases pricing.tiered.isEmpty with
  | true => rfl
  | false =>
    cases inputTokens.number with
    | error error => rfl
    | ok tokens =>
      simp only [Bool.false_eq_true, if_false, bind, Except.bind]
      split <;> rfl

theorem Rates.update_positive {base changes : Rates} {get : Rates → Option ℚ}
    (field : get (base.update changes) = (get changes <|> get base))
    (positive : ∃ rate, get base = some rate ∧ 0 < rate)
    (changed : ∀ rate, get changes = some rate → 0 < rate) :
    ∃ rate, get (base.update changes) = some rate ∧ 0 < rate := by
  rw [field]
  cases change : get changes with
  | none => simpa using positive
  | some rate => exact ⟨rate, rfl, changed rate change⟩

theorem PricingRow.Positive.effective {pricing : PricingRow} (positive : pricing.Positive)
    {inputTokens : Json} {rates : Rates} (applied : applyTiered pricing inputTokens = .ok rates) :
    (∃ rate, rates.inputPerMillion = some rate ∧ 0 < rate) ∧
      ∃ rate, rates.outputPerMillion = some rate ∧ 0 < rate := by
  cases applyTiered_rates applied with
  | inl same => exact same ▸ ⟨positive.input, positive.output⟩
  | inr tiered =>
    obtain ⟨tier, member, rfl⟩ := tiered
    exact ⟨Rates.update_positive rfl positive.input (positive.tierInput tier member),
      Rates.update_positive rfl positive.output (positive.tierOutput tier member)⟩

end BurnLens.Cost
