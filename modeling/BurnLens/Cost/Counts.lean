import BurnLens.Cost.Calculator

/-! # Costs of token counts

`calculate_cost` on counts that are integers: every token is in a class, and every class has its
rate in the tier of the prompt.
-/

namespace BurnLens.Cost

open Library Providers

structure TokenCounts where
  input : Nat := 0
  output : Nat := 0
  reasoning : Nat := 0
  cacheRead : Nat := 0
  cacheWrite : Nat := 0
  audioInput : Nat := 0
  audioOutput : Nat := 0
deriving DecidableEq

def TokenCounts.usage (c : TokenCounts) : TokenUsage where
  inputTokens := .int c.input
  outputTokens := .int c.output
  reasoningTokens := .int c.reasoning
  cacheReadTokens := .int c.cacheRead
  cacheWriteTokens := .int c.cacheWrite
  audioInputTokens := .int c.audioInput
  audioOutputTokens := .int c.audioOutput

/-! ## Classes -/

inductive TokenClass where
  | textInput
  | textOutput
  | reasoning
  | cacheRead
  | cacheWrite
  | audioInput
  | audioOutput
deriving DecidableEq

def TokenClass.all : List TokenClass :=
  [.textInput, .textOutput, .reasoning, .cacheRead, .cacheWrite, .audioInput, .audioOutput]

def Rates.given (rates : Rates) : TokenClass → Option ℚ
  | .textInput => rates.inputPerMillion
  | .textOutput => rates.outputPerMillion
  | .reasoning => rates.reasoningPerMillion
  | .cacheRead => rates.cacheReadPerMillion
  | .cacheWrite => rates.cacheWritePerMillion
  | .audioInput => rates.audioInputPerMillion
  | .audioOutput => rates.audioOutputPerMillion

/-- The class whose rate stands in for a missing one. -/
def TokenClass.fallback : TokenClass → Option TokenClass
  | .reasoning => some .textOutput
  | .audioInput => some .textInput
  | .audioOutput => some .textOutput
  | _ => none

/-- The rate of a class, 0 where there is none. -/
def Rates.of (rates : Rates) (k : TokenClass) : ℚ :=
  ((rates.given k).or (k.fallback.bind rates.given)).getD 0

namespace TokenCounts

variable (inclusive : Bool) (c : TokenCounts)

/-- The cached tokens that are a part of the prompt count. -/
def cachedInPrompt : Nat := if inclusive then c.cacheRead else 0

/-- How many tokens are charged in a class. -/
def charged : TokenClass → Nat
  | .textInput => c.input - c.cachedInPrompt inclusive - c.audioInput
  | .textOutput => c.output - c.audioOutput
  | .reasoning => c.reasoning
  | .cacheRead => c.cacheRead
  | .cacheWrite => c.cacheWrite
  | .audioInput => c.audioInput
  | .audioOutput => c.audioOutput

/-- The numbers that are multiplied with a rate can be converted to a float. -/
def Fits : Prop := ∀ k ∈ TokenClass.all, c.charged inclusive k < floatLimit

instance : Decidable (c.Fits inclusive) :=
  inferInstanceAs (Decidable (∀ k ∈ TokenClass.all, c.charged inclusive k < floatLimit))

def cost (rates : Rates) : ℚ :=
  (TokenClass.all.map fun k => c.charged inclusive k * rates.of k / 1000000).sum

end TokenCounts

/-- The rates for a prompt of so many tokens. -/
def PricingRow.ratesAt (pricing : PricingRow) (tokens : Nat) : Rates :=
  match activeTier (.int tokens) pricing.tiered none with
  | some tier => pricing.rates.update tier.rates
  | none => pricing.rates

theorem applyTiered_int (pricing : PricingRow) (tokens : Nat) :
    applyTiered pricing (.int tokens) = .ok (pricing.ratesAt tokens) := by
  rw [applyTiered, PricingRow.ratesAt]
  cases pricing.tiered with
  | nil => rfl
  | cons tier tiers =>
    simp only [List.isEmpty_cons, Bool.false_eq_true, if_false, Json.number, bind, Except.bind]
    cases activeTier (.int tokens) (tier :: tiers) none <;> rfl

/-! ## The cost of counts -/

section

variable {provider : Str} {rates : Rates} {c : TokenCounts}

theorem billableInput_usage :
    billableInput provider c.usage = .ok (.int (c.charged (includesCache provider) .textInput)) := by
  have truncated : max 0 ((c.input : Int) - c.cachedInPrompt (includesCache provider) - c.audioInput) =
      (c.charged (includesCache provider) .textInput : Nat) := by
    simp only [TokenCounts.charged]
    omega
  rw [← truncated]
  cases subset : includesCache provider <;>
    simp [billableInput, subset, TokenCounts.usage, TokenCounts.cachedInPrompt, Json.number, Number.sub,
      Number.max0_int, bind, Except.bind, pure, Except.pure]

theorem billableOutput_usage (inclusive : Bool) :
    billableOutput c.usage = .ok (.int (c.charged inclusive .textOutput)) := by
  have truncated : max 0 ((c.output : Int) - c.audioOutput) =
      (c.charged inclusive .textOutput : Nat) := by
    simp only [TokenCounts.charged]
    omega
  rw [← truncated]
  simp [billableOutput, TokenCounts.usage, Json.number, Number.sub, Number.max0_int, bind, Except.bind,
    pure, Except.pure]

theorem perMillion_nat {n : Nat} {rate : Option ℚ} :
    perMillion (.ok (.int n)) rate =
      if n < floatLimit then .ok (.fin (n * rate.getD 0 / 1000000)) else .error .overflowError := by
  have same : (n : Int).natAbs = n := Int.natAbs_natCast n
  rw [perMillion]
  simp only [Number.times, Number.toFloat, same, bind, Except.bind]
  by_cases fits : n < floatLimit
  · simp only [if_pos fits, pure, Except.pure, Flt.scale, Int.cast_natCast]
    rw [mul_one_div]
  · simp only [if_neg fits]

theorem charged_bind {α : Type} {p : Prop} [Decidable p] {x : ℚ} {f : Flt → Except PyError α} :
    ((if p then .ok (.fin x) else .error .overflowError : Except PyError Flt) >>= f) =
      if p then f (.fin x) else .error .overflowError := by
  split <;> rfl

theorem costAt_usage : costAt provider rates c.usage =
    if c.Fits (includesCache provider) then .ok (.fin (c.cost (includesCache provider) rates))
    else .error .overflowError := by
  have counts : ∀ n : Nat, (Json.int n).number = .ok (.int n) := fun _ => rfl
  have fits : c.Fits (includesCache provider) ↔
      c.charged (includesCache provider) .textInput < floatLimit ∧
      c.charged (includesCache provider) .textOutput < floatLimit ∧
      c.charged (includesCache provider) .reasoning < floatLimit ∧
      c.charged (includesCache provider) .cacheRead < floatLimit ∧
      c.charged (includesCache provider) .cacheWrite < floatLimit ∧
      c.charged (includesCache provider) .audioInput < floatLimit ∧
      c.charged (includesCache provider) .audioOutput < floatLimit := by
    simp only [TokenCounts.Fits, TokenClass.all, List.forall_mem_cons, List.not_mem_nil, false_implies,
      implies_true, and_true]
  have either : ∀ a b : Option ℚ, (a <|> b) = a.or b := fun a b => by cases a <;> rfl
  rw [costAt, billableInput_usage, billableOutput_usage (includesCache provider)]
  simp only [TokenCounts.usage, counts, perMillion_nat, charged_bind, unitsCost, fits, ite_and, either,
    TokenCounts.cost, TokenClass.all, List.map_cons, List.sum_cons, Rates.of, Rates.given,
    TokenClass.fallback, Option.bind_none, Option.or_none, Option.bind_some]
  rfl

end

theorem calculateCost_usage {tables : PricingTables} {today : Date} {provider model : Str}
    {pricing : PricingRow} {c : TokenCounts}
    (resolved : resolvePricing tables today provider (.str model) = .ok (some pricing)) :
    calculateCost tables today provider (.str model) c.usage =
      if c.Fits (includesCache provider) then
        .ok (.fin (c.cost (includesCache provider) (pricing.ratesAt c.input)))
      else .error .overflowError := by
  rw [calculateCost, resolved]
  have tier : applyTiered pricing c.usage.inputTokens = .ok (pricing.ratesAt c.input) :=
    applyTiered_int pricing c.input
  simp only [bind, Except.bind, tier]
  exact costAt_usage

end BurnLens.Cost
