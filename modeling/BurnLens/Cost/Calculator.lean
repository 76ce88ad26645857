import BurnLens.Cost.Pricing

/-! # Token usage and its cost

Token counts are taken over from the upstream answer as they stand there, so they are JSON
values; the arithmetic on them raises where a count is no number, or an integer too large for
a float.
-/

namespace BurnLens.Cost

open Library Providers

structure TokenUsage where
  inputTokens : Json := .int 0
  outputTokens : Json := .int 0
  reasoningTokens : Json := .int 0
  cacheReadTokens : Json := .int 0
  cacheWriteTokens : Json := .int 0
  audioInputTokens : Json := .int 0
  audioOutputTokens : Json := .int 0
  units : List (Str × Number) := []

def cursorUnderlying (model : Str) : Option (Str × Str) :=
  if model = "cursor-auto-sonnet-est" then some ("anthropic", "claude-sonnet-4-6")
  else if startsWith "claude" model then some ("anthropic", model)
  else if startsWith "gpt" model || startsWith "o1" model || startsWith "o3" model ||
      startsWith "o4" model then some ("openai", model)
  else none

/-- `re.sub(r"^[a-z0-9-]+\.(?=anthropic\.)", "", model)`. -/
def stripGeoPrefix (model : Str) : Str :=
  let region := model.takeWhile fun c =>
    ('a' ≤ c && c ≤ 'z') || ('0' ≤ c && c ≤ '9') || c = '-'
  let rest := model.drop region.length
  if region ≠ [] ∧ startsWith ".anthropic." rest then rest.drop 1 else model

def resolvePricing (tables : PricingTables) (today : Date) (provider : Str) (model : Json) :
    Except PyError (Option PricingRow) :=
  if provider = "cursor" then
    match model with
    | .str model =>
      match cursorUnderlying model with
      | some (provider, model) => getModelPricing tables today provider (.str model)
      | none => .ok none
    | _ => .error .attributeError
  else if provider = "bedrock" then
    match model with
    | .str model => getModelPricing tables today provider (.str (stripGeoPrefix model))
    | _ => .error .typeError
  else getModelPricing tables today provider model

def isModelPriced (tables : PricingTables) (today : Date) (provider : Str) (model : Json) :
    Except PyError Bool := do
  return (← resolvePricing tables today provider model).isSome

/-! ## Cost -/

def includesCache (provider : Str) : Bool :=
  match registered provider with
  | some p => p.config.promptTokensIncludeCache
  | none => false

def billableInput (provider : Str) (usage : TokenUsage) : Except PyError Number := do
  let cachedIsSubset : Json := if includesCache provider then usage.cacheReadTokens else .int 0
  let uncached ← (← usage.inputTokens.number).sub (← cachedIsSubset.number)
  return (← uncached.sub (← usage.audioInputTokens.number)).max0

def billableOutput (usage : TokenUsage) : Except PyError Number := do
  return (← (← usage.outputTokens.number).sub (← usage.audioOutputTokens.number)).max0

/-- `tokens * rate / per_million`, the rate 0 where the row has none. -/
def perMillion (tokens : Except PyError Number) (rate : Option ℚ) : Except PyError Flt := do
  return (← (← tokens).times (rate.getD 0)).scale (1 / 1000000)

def unitsCost (prices : List (Str × ℚ)) : List (Str × Number) → Except PyError Flt
  | [] => .ok (.fin 0)
  | (name, count) :: units => do
    let cost ← count.times ((prices.lookup name).getD 0)
    return cost.add (← unitsCost prices units)

def costAt (provider : Str) (rates : Rates) (usage : TokenUsage) : Except PyError Flt := do
  let inputCost ← perMillion (billableInput provider usage) rates.inputPerMillion
  let outputCost ← perMillion (billableOutput usage) rates.outputPerMillion
  let reasoningCost ← perMillion usage.reasoningTokens.number
    (rates.reasoningPerMillion <|> rates.outputPerMillion)
  let cacheReadCost ← perMillion usage.cacheReadTokens.number rates.cacheReadPerMillion
  let cacheWriteCost ← perMillion usage.cacheWriteTokens.number rates.cacheWritePerMillion
  let audioInputCost ← perMillion usage.audioInputTokens.number
    (rates.audioInputPerMillion <|> rates.inputPerMillion)
  let audioOutputCost ← perMillion usage.audioOutputTokens.number
    (rates.audioOutputPerMillion <|> rates.outputPerMillion)
  let unitsCost ← unitsCost (rates.unitPrices.getD []) usage.units
  return inputCost.add <| outputCost.add <| reasoningCost.add <| cacheReadCost.add <|
    cacheWriteCost.add <| audioInputCost.add <| audioOutputCost.add unitsCost

/-- `calculate_cost`: 0 for a model without a price, which is put into the set of models seen
    without one. -/
def calculateCost (tables : PricingTables) (today : Date) (provider : Str) (model : Json)
    (usage : TokenUsage) : Except PyError Flt := do
  match ← resolvePricing tables today provider model with
  | none => if model.hashable then return .fin 0 else throw .typeError
  | some pricing =>
    let rates ← applyTiered pricing usage.inputTokens
    costAt provider rates usage

/-! ## Where the cost is defined -/

def countable (tokens : Except PyError Number) : Bool :=
  match tokens with
  | .ok n => n.fits
  | .error _ => false

structure Billable (provider : Str) (usage : TokenUsage) : Prop where
  input : countable (billableInput provider usage) = true
  output : countable (billableOutput usage) = true
  reasoning : countable usage.reasoningTokens.number = true
  cacheRead : countable usage.cacheReadTokens.number = true
  cacheWrite : countable usage.cacheWriteTokens.number = true
  audioInput : countable usage.audioInputTokens.number = true
  audioOutput : countable usage.audioOutputTokens.number = true
  units : ∀ item ∈ usage.units, item.2.fits = true

theorem perMillion_ok {tokens : Except PyError Number} {rate : Option ℚ} :
    (∃ cost, perMillion tokens rate = .ok cost) ↔ countable tokens = true := by
  cases tokens with
  | error error => simp [perMillion, countable, bind, Except.bind]
  | ok n =>
    cases fit : n.fits with
    | true =>
      obtain ⟨x, same⟩ := Number.toFloat_of_fits fit
      simp [perMillion, countable, Number.times, bind, Except.bind, pure, Except.pure, same, fit]
    | false =>
      simp [perMillion, countable, Number.times, bind, Except.bind, Number.toFloat_of_not_fits fit, fit]

theorem unitsCost_ok {prices : List (Str × ℚ)} {units : List (Str × Number)} :
    (∃ cost, unitsCost prices units = .ok cost) ↔ ∀ item ∈ units, item.2.fits = true := by
  induction units with
  | nil => simp [unitsCost]
  | cons item units inductionHypothesis =>
    obtain ⟨name, count⟩ := item
    rw [List.forall_mem_cons, ← inductionHypothesis]
    simp only [unitsCost, bind_eq_ok]
    constructor
    · rintro ⟨-, cost, counted, rest, summed, -⟩
      refine ⟨?_, rest, summed⟩
      have ok := count.times_isOk ((prices.lookup name).getD 0)
      rw [counted] at ok
      exact ok.symm
    · rintro ⟨fits, rest, summed⟩
      obtain ⟨x, same⟩ := Number.toFloat_of_fits fits
      exact ⟨_, _, by rw [Number.times, same]; rfl, rest, summed, rfl⟩

/-- The cost is defined exactly on billable counts, whatever the rates are. -/
theorem costAt_ok {provider : Str} {rates : Rates} {usage : TokenUsage} :
    (∃ cost, costAt provider rates usage = .ok cost) ↔ Billable provider usage := by
  constructor
  · rintro ⟨cost, defined⟩
    simp only [costAt, bind_eq_ok] at defined
    -- a sum is defined where each of its terms is, and a term where its count is billable
    obtain ⟨a, input, b, output, c, reasoning, d, cacheRead, e, cacheWrite, f, audioInput, g,
      audioOutput, h, units, -⟩ := defined
    exact {
      input := perMillion_ok.mp ⟨a, input⟩
      output := perMillion_ok.mp ⟨b, output⟩
      reasoning := perMillion_ok.mp ⟨c, reasoning⟩
      cacheRead := perMillion_ok.mp ⟨d, cacheRead⟩
      cacheWrite := perMillion_ok.mp ⟨e, cacheWrite⟩
      audioInput := perMillion_ok.mp ⟨f, audioInput⟩
      audioOutput := perMillion_ok.mp ⟨g, audioOutput⟩
      units := unitsCost_ok.mp ⟨h, units⟩ }
  · intro billable
    obtain ⟨a, input⟩ := perMillion_ok.mpr billable.input
    obtain ⟨b, output⟩ := perMillion_ok.mpr billable.output
    obtain ⟨c, reasoning⟩ := perMillion_ok.mpr billable.reasoning
    obtain ⟨d, cacheRead⟩ := perMillion_ok.mpr billable.cacheRead
    obtain ⟨e, cacheWrite⟩ := perMillion_ok.mpr billable.cacheWrite
    obtain ⟨f, audioInput⟩ := perMillion_ok.mpr billable.audioInput
    obtain ⟨g, audioOutput⟩ := perMillion_ok.mpr billable.audioOutput
    obtain ⟨h, units⟩ := unitsCost_ok.mpr billable.units
    simp only [costAt, bind_eq_ok]
    exact ⟨_, a, input, b, output, c, reasoning, d, cacheRead, e, cacheWrite, f, audioInput, g,
      audioOutput, h, units, rfl⟩

theorem Billable.inputNumber {provider : Str} {usage : TokenUsage}
    (billable : Billable provider usage) : ∃ n, usage.inputTokens.number = .ok n := by
  have input := billable.input
  cases counted : billableInput provider usage with
  | error error => rw [counted] at input; cases input
  | ok n =>
    simp only [billableInput, bind_eq_ok] at counted
    obtain ⟨m, number, -⟩ := counted
    exact ⟨m, number⟩

theorem getModelPricing_str (tables : PricingTables) (today : Date) (provider model : Str) :
    ∃ pricing, getModelPricing tables today provider (.str model) = .ok pricing := by
  simp only [getModelPricing]
  split <;> exact ⟨_, rfl⟩

theorem resolvePricing_str (tables : PricingTables) (today : Date) (provider model : Str) :
    ∃ pricing, resolvePricing tables today provider (.str model) = .ok pricing := by
  simp only [resolvePricing]
  split
  · split
    · exact getModelPricing_str ..
    · exact ⟨none, rfl⟩
  · split <;> exact getModelPricing_str ..

/-- `calculate_cost` raises on a priced model exactly where a count cannot be billed. -/
theorem calculateCost_ok {tables : PricingTables} {today : Date} {provider model : Str}
    {usage : TokenUsage} :
    (∃ cost, calculateCost tables today provider (.str model) usage = .ok cost) ↔
      ∀ pricing, resolvePricing tables today provider (.str model) = .ok (some pricing) →
        Billable provider usage := by
  obtain ⟨resolved, same⟩ := resolvePricing_str tables today provider model
  simp only [calculateCost, same, bind, Except.bind]
  cases resolved with
  | none => simp [Json.hashable, pure, Except.pure]
  | some pricing =>
    simp only [Except.ok.injEq, Option.some.injEq, forall_eq']
    constructor
    · rintro ⟨cost, defined⟩
      obtain ⟨rates, -, summed⟩ := bind_eq_ok.mp defined
      exact costAt_ok.mp ⟨cost, summed⟩
    · intro billable
      -- billable input is a number, which is all that the choice of a tier needs
      have tiers : (applyTiered pricing usage.inputTokens).isOk = true := by
        obtain ⟨n, number⟩ := billable.inputNumber
        rw [applyTiered_isOk, number]
        exact Bool.or_true _
      cases applied : applyTiered pricing usage.inputTokens with
      | error error => rw [applied] at tiers; cases tiers
      | ok rates => exact costAt_ok.mpr billable

/-! ## Integer counts -/

theorem perMillion_int {tokens : Except PyError Number} {n : Int} {rate : Option ℚ} {cost : Flt}
    (count : tokens = .ok (.int n)) (defined : perMillion tokens rate = .ok cost) :
    ∃ x, cost = .fin x := by
  simp only [perMillion, count, Number.times, bind_eq_ok, pure, Except.pure,
    Except.ok.injEq] at defined
  obtain ⟨_, rfl, _, ⟨float, converted, rfl⟩, rfl⟩ := defined
  by_cases small : n.natAbs < floatLimit
  · rw [Number.toFloat_int small] at converted
    cases converted
    exact ⟨_, rfl⟩
  · rw [Number.toFloat, if_neg small] at converted
    cases converted

/-- All counts are integers. -/
structure Integral (usage : TokenUsage) : Prop where
  input : ∃ n, usage.inputTokens = .int n
  output : ∃ n, usage.outputTokens = .int n
  reasoning : ∃ n, usage.reasoningTokens = .int n
  cacheRead : ∃ n, usage.cacheReadTokens = .int n
  cacheWrite : ∃ n, usage.cacheWriteTokens = .int n
  audioInput : ∃ n, usage.audioInputTokens = .int n
  audioOutput : ∃ n, usage.audioOutputTokens = .int n
  units : usage.units = []

theorem costAt_integral {provider : Str} {rates : Rates} {usage : TokenUsage} {cost : Flt}
    (integral : Integral usage) (defined : costAt provider rates usage = .ok cost) :
    ∃ x, cost = .fin x := by
  obtain ⟨⟨m, input⟩, ⟨n, output⟩, ⟨_, reasoning⟩, ⟨k, cacheRead⟩, ⟨_, cacheWrite⟩,
    ⟨i, audioInput⟩, ⟨j, audioOutput⟩, units⟩ := integral
  have billedInput : ∃ n, billableInput provider usage = .ok (.int n) := by
    cases subset : includesCache provider <;>
      simp [billableInput, input, cacheRead, audioInput, subset, Json.number, Number.sub,
        Number.max0_int, bind, Except.bind, pure, Except.pure]
  have billedOutput : billableOutput usage = .ok (.int (max 0 (n - j))) := by
    simp [billableOutput, output, audioOutput, Json.number, Number.sub, Number.max0_int, bind,
      Except.bind, pure, Except.pure]
  obtain ⟨_, billedInput⟩ := billedInput
  simp only [costAt, bind_eq_ok, units, unitsCost, pure, Except.pure, Except.ok.injEq] at defined
  obtain ⟨a, first, b, second, c, third, d, fourth, e, fifth, f, sixth, g, seventh, h, rfl, rfl⟩ :=
    defined
  obtain ⟨_, rfl⟩ := perMillion_int billedInput first
  obtain ⟨_, rfl⟩ := perMillion_int billedOutput second
  obtain ⟨_, rfl⟩ := perMillion_int (by rw [reasoning]; rfl) third
  obtain ⟨_, rfl⟩ := perMillion_int (by rw [cacheRead]; rfl) fourth
  obtain ⟨_, rfl⟩ := perMillion_int (by rw [cacheWrite]; rfl) fifth
  obtain ⟨_, rfl⟩ := perMillion_int (by rw [audioInput]; rfl) sixth
  obtain ⟨_, rfl⟩ := perMillion_int (by rw [audioOutput]; rfl) seventh
  exact ⟨_, rfl⟩

theorem calculateCost_integral {tables : PricingTables} {today : Date} {provider : Str}
    {model : Json} {usage : TokenUsage} {cost : Flt} (integral : Integral usage)
    (defined : calculateCost tables today provider model usage = .ok cost) : ∃ x, cost = .fin x := by
  obtain ⟨resolved, _, defined⟩ := bind_eq_ok.mp defined
  cases resolved with
  | none =>
    simp only at defined
    split at defined
    · cases defined
      exact ⟨0, rfl⟩
    · cases defined
  | some pricing =>
    obtain ⟨rates, _, defined⟩ := bind_eq_ok.mp defined
    exact costAt_integral integral defined

/-! ## Usage of an answer -/

/-- `value or {}`, as a dictionary. -/
def dictOrEmpty (value : Json) : Except PyError Fields := (value.orElse (.obj [])).dict

def extractUsageOpenai (response : Json) : Except PyError TokenUsage := do
  let u ← dictOrEmpty ((← response.dict).getD "usage" .null)
  let details ← dictOrEmpty (u.getD "completion_tokens_details" .null)
  let promptDetails ← dictOrEmpty (u.getD "prompt_tokens_details" .null)
  let reasoning := details.getD "reasoning_tokens" (.int 0)
  -- completion_tokens includes the reasoning tokens; the recorded counts are disjoint
  let output ← (← (u.getD "completion_tokens" (.int 0)).number).sub (← reasoning.number)
  return {
    inputTokens := u.getD "prompt_tokens" (.int 0)
    outputTokens := output.max0.toJson
    reasoningTokens := reasoning
    cacheReadTokens := promptDetails.getD "cached_tokens" (.int 0)
    audioInputTokens := promptDetails.getD "audio_tokens" (.int 0)
    audioOutputTokens := details.getD "audio_tokens" (.int 0) }

def extractUsageAnthropic (response : Json) : Except PyError TokenUsage := do
  let u ← dictOrEmpty ((← response.dict).getD "usage" .null)
  return {
    inputTokens := u.getD "input_tokens" (.int 0)
    outputTokens := u.getD "output_tokens" (.int 0)
    cacheReadTokens := u.getD "cache_read_input_tokens" (.int 0)
    cacheWriteTokens := u.getD "cache_creation_input_tokens" (.int 0) }

def extractUsageGoogle (response : Json) : Except PyError TokenUsage := do
  let metadata ← dictOrEmpty ((← response.dict).getD "usageMetadata" .null)
  return {
    inputTokens := metadata.getD "promptTokenCount" (.int 0)
    outputTokens := metadata.getD "candidatesTokenCount" (.int 0) }

/-- `BedrockProvider.extract_usage`: Converse names, else those of an Anthropic body. -/
def extractUsageBedrock (response : Json) : Except PyError TokenUsage := do
  let u ← dictOrEmpty ((← response.dict).getD "usage" .null)
  if u.has "inputTokens" || u.has "outputTokens" then
    return {
      inputTokens := u.getD "inputTokens" (.int 0)
      outputTokens := u.getD "outputTokens" (.int 0)
      cacheReadTokens := (u.getD "cacheReadInputTokens" (.int 0)).orElse (.int 0)
      cacheWriteTokens := (u.getD "cacheWriteInputTokens" (.int 0)).orElse (.int 0) }
  else
    return {
      inputTokens := u.getD "input_tokens" (.int 0)
      outputTokens := u.getD "output_tokens" (.int 0)
      cacheReadTokens := (u.getD "cache_read_input_tokens" (.int 0)).orElse (.int 0)
      cacheWriteTokens := (u.getD "cache_creation_input_tokens" (.int 0)).orElse (.int 0) }

def extractUsage (provider : Provider) (response : Json) : Except PyError TokenUsage :=
  match provider with
  | .anthropic => extractUsageAnthropic response
  | .google => extractUsageGoogle response
  | .bedrock => extractUsageBedrock response
  | _ => extractUsageOpenai response

end BurnLens.Cost
