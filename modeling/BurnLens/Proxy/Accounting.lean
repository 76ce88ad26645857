import BurnLens.Cost.Calculator
import BurnLens.Proxy.Headers

/-! # Accounting of an upstream answer

`_handle_non_streaming` from the completed upstream exchange on: the usage is extracted under a
guard, the cost is computed outside it, and the answer goes back to the client.
-/

namespace BurnLens.Proxy

open Library Providers Cost

/-- What `client.request` returned.  `json` is what `response.json()` makes of the content, and
    nothing where it raises. -/
structure UpstreamResponse where
  statusCode : Nat
  headers : Headers
  content : List UInt8
  json : Option Json

structure Answer where
  statusCode : Nat
  headers : Headers
  body : List UInt8

structure UsageRecord where
  provider : Str
  model : Str
  usage : TokenUsage
  costUsd : Flt
  statusCode : Nat
  eventId : Str

def usageOrEmpty : Except PyError TokenUsage → TokenUsage
  | .ok usage => usage
  | .error _ => {}

/-- `try: usage = provider.extract_usage(response.json())`. -/
def guardedUsage (provider : Provider) : Option Json → TokenUsage
  | some body => usageOrEmpty (extractUsage provider body)
  | none => {}

/-- `_handle_non_streaming` after the upstream exchange. -/
def handleNonStreaming (tables : PricingTables) (today : Date) (provider : Provider) (model : Str)
    (eventId : Str) (response : UpstreamResponse) : Except PyError (Answer × UsageRecord) := do
  let usage := guardedUsage provider response.json
  let cost ← calculateCost tables today provider.name (.str model) usage
  let headers := response.headers.filter fun header => lower header.1 ∉ stripResponseHeaders
  return (
    { statusCode := response.statusCode
      headers := headers ++ [(("x-burnlens-event-id" : Str), eventId)]
      body := response.content },
    { provider := provider.name, model, usage, costUsd := cost,
      statusCode := response.statusCode, eventId })

/-! ## Null counts -/

def zeroNull : Json → Json
  | .null => .int 0
  | count => count

def zeroNullsOfUsage (key : Str) (value : Json) : Json :=
  if key = "completion_tokens_details" ∨ key = "prompt_tokens_details" then
    value.mapFields fun _ count => zeroNull count
  else zeroNull value

/-- The answer with 0 in the place of each null count of its usage. -/
def nullsAsZero (response : Json) : Json :=
  response.mapFields fun key value =>
    if key = "usage" ∨ key = "usageMetadata" then value.mapFields zeroNullsOfUsage else value

/-- The counts as they stand in the answer.  Bedrock's cache counts are read as `count or 0`. -/
def rawUsage (provider : Provider) (response : Json) : Except PyError TokenUsage := do
  match provider with
  | .anthropic => extractUsageAnthropic response
  | .google => extractUsageGoogle response
  | .bedrock => extractUsageBedrock response
  | _ =>
    let u ← dictOrEmpty ((← response.dict).getD "usage" .null)
    let details ← dictOrEmpty (u.getD "completion_tokens_details" .null)
    let promptDetails ← dictOrEmpty (u.getD "prompt_tokens_details" .null)
    return {
      inputTokens := u.getD "prompt_tokens" (.int 0)
      outputTokens := u.getD "completion_tokens" (.int 0)
      reasoningTokens := details.getD "reasoning_tokens" (.int 0)
      cacheReadTokens := promptDetails.getD "cached_tokens" (.int 0)
      audioInputTokens := promptDetails.getD "audio_tokens" (.int 0)
      audioOutputTokens := details.getD "audio_tokens" (.int 0) }

def reasoningInOutput : Provider → Bool
  | .anthropic | .google | .bedrock => false
  | _ => true

/-- The recorded counts: output and reasoning made disjoint where the answer sums them. -/
def disjointUsage (provider : Provider) (raw : TokenUsage) : Except PyError TokenUsage := do
  if reasoningInOutput provider then
    let output ← (← raw.outputTokens.number).sub (← raw.reasoningTokens.number)
    return { raw with outputTokens := output.max0.toJson }
  else return raw

def TokenUsage.mapCounts (f : Json → Json) (usage : TokenUsage) : TokenUsage :=
  { usage with
    inputTokens := f usage.inputTokens
    outputTokens := f usage.outputTokens
    reasoningTokens := f usage.reasoningTokens
    cacheReadTokens := f usage.cacheReadTokens
    cacheWriteTokens := f usage.cacheWriteTokens
    audioInputTokens := f usage.audioInputTokens
    audioOutputTokens := f usage.audioOutputTokens }

structure NoNull (usage : TokenUsage) : Prop where
  input : usage.inputTokens ≠ .null
  output : usage.outputTokens ≠ .null
  reasoning : usage.reasoningTokens ≠ .null
  cacheRead : usage.cacheReadTokens ≠ .null
  cacheWrite : usage.cacheWriteTokens ≠ .null
  audioInput : usage.audioInputTokens ≠ .null
  audioOutput : usage.audioOutputTokens ≠ .null

/-- Nulls that change nothing: there are none among the counts, or the counts are not extracted
    at all and with zeros in place of the nulls they would have been nothing but zeros. -/
def NullsHarmless (provider : Provider) (raw : TokenUsage) : Prop :=
  NoNull raw ∨
    (disjointUsage provider raw).isOk = false ∧
      usageOrEmpty (disjointUsage provider (TokenUsage.mapCounts zeroNull raw)) = {}

/-! ## Extraction in two steps -/

theorem extractUsage_eq (provider : Provider) (response : Json) :
    extractUsage provider response = (do disjointUsage provider (← rawUsage provider response)) := by
  cases provider <;> simp only [extractUsage, rawUsage, disjointUsage, reasoningInOutput,
    extractUsageOpenai, bind_assoc, pure_bind, bind_pure, if_true, Bool.false_eq_true, if_false]

theorem dictOrEmpty_mapFields (f : Str → Json → Json) (value : Json) :
    dictOrEmpty (value.mapFields f) = (dictOrEmpty value).map (Fields.mapValues f) := by
  simp only [dictOrEmpty, Json.orElse, Json.truthy_mapFields]
  cases value.truthy with
  | true => exact Json.dict_mapFields f value
  | false => rfl

theorem zeroNull_eq_self {count : Json} : zeroNull count = count ↔ count ≠ .null := by
  cases count <;> simp [zeroNull]

theorem orElse_zeroNull (count : Json) : (zeroNull count).orElse (.int 0) = count.orElse (.int 0) := by
  cases count <;> rfl

theorem zeroNull_orElse (count : Json) : zeroNull (count.orElse (.int 0)) = count.orElse (.int 0) := by
  rw [zeroNull_eq_self, Json.orElse]
  split
  · next truth => rintro rfl; cases truth
  · simp

theorem getD_zeroNulls (u : Fields) {key : Str}
    (count : ¬(key = "completion_tokens_details" ∨ key = "prompt_tokens_details")) :
    Fields.getD (Fields.mapValues zeroNullsOfUsage u) key (.int 0) =
      zeroNull (Fields.getD u key (.int 0)) := by
  rw [Fields.getD_mapValues] <;> rw [zeroNullsOfUsage, if_neg count]
  rfl

theorem details_zeroNulls (u : Fields) {key : Str}
    (details : key = "completion_tokens_details" ∨ key = "prompt_tokens_details") :
    dictOrEmpty (Fields.getD (Fields.mapValues zeroNullsOfUsage u) key .null) =
      (dictOrEmpty (Fields.getD u key .null)).map (Fields.mapValues fun _ => zeroNull) := by
  rw [Fields.getD_mapValues]
  · rw [zeroNullsOfUsage, if_pos details, dictOrEmpty_mapFields]
  · rw [zeroNullsOfUsage, if_pos details]; rfl

theorem getD_zeroNull (details : Fields) (key : Str) :
    Fields.getD (Fields.mapValues (fun _ => zeroNull) details) key (.int 0) =
      zeroNull (Fields.getD details key (.int 0)) :=
  Fields.getD_mapValues rfl details

theorem usage_nullsAsZero {key : Str} (usage : key = "usage" ∨ key = "usageMetadata")
    (response : Json) {read : Fields → Except PyError TokenUsage}
    (reads : ∀ u, read (Fields.mapValues zeroNullsOfUsage u) =
      (read u).map (TokenUsage.mapCounts zeroNull)) :
    (do read (← dictOrEmpty (Fields.getD (← (nullsAsZero response).dict) key .null))) =
      (do read (← dictOrEmpty (Fields.getD (← response.dict) key .null))).map
        (TokenUsage.mapCounts zeroNull) := by
  rw [nullsAsZero, Json.dict_mapFields]
  cases response.dict with
  | error error => rfl
  | ok fields =>
    simp only [Except.map, bind, Except.bind]
    rw [Fields.getD_mapValues, if_pos usage, dictOrEmpty_mapFields]
    · cases dictOrEmpty (Fields.getD fields key .null) with
      | error error => rfl
      | ok u => simpa only [Except.map] using reads u
    · rw [if_pos usage]; rfl

theorem rawUsage_nullsAsZero (provider : Provider) (response : Json) :
    rawUsage provider (nullsAsZero response) =
      (rawUsage provider response).map (TokenUsage.mapCounts zeroNull) := by
  have openai : rawUsage .openai (nullsAsZero response) =
      (rawUsage .openai response).map (TokenUsage.mapCounts zeroNull) := by
    refine usage_nullsAsZero (.inl rfl) response fun u => ?_
    simp only [details_zeroNulls u (.inl rfl), details_zeroNulls u (.inr rfl)]
    cases dictOrEmpty (Fields.getD u "completion_tokens_details" .null) with
    | error error => rfl
    | ok details =>
      cases dictOrEmpty (Fields.getD u "prompt_tokens_details" .null) with
      | error error => rfl
      | ok promptDetails =>
        simp only [Except.map, bind, Except.bind, pure, Except.pure, getD_zeroNull]
        rw [getD_zeroNulls u (by decide), getD_zeroNulls u (by decide)]
        rfl
  -- each provider reads its counts from one object of the answer
  cases provider with
  | anthropic =>
    refine usage_nullsAsZero (.inl rfl) response fun u => ?_
    rw [getD_zeroNulls u (by decide), getD_zeroNulls u (by decide), getD_zeroNulls u (by decide),
      getD_zeroNulls u (by decide)]
    rfl
  | google =>
    refine usage_nullsAsZero (.inr rfl) response fun u => ?_
    rw [getD_zeroNulls u (by decide), getD_zeroNulls u (by decide)]
    rfl
  | bedrock =>
    refine usage_nullsAsZero (.inl rfl) response fun u => ?_
    simp only [Fields.has_mapValues]
    split <;>
    · rw [getD_zeroNulls u (by decide), getD_zeroNulls u (by decide), getD_zeroNulls u (by decide),
        getD_zeroNulls u (by decide), orElse_zeroNull, orElse_zeroNull]
      simp only [Except.map, pure, Except.pure, TokenUsage.mapCounts, zeroNull_orElse]
      rfl
  | openai => exact openai
  | azure => exact openai
  | groq => exact openai
  | together => exact openai
  | mistral => exact openai
  | xai => exact openai
  | deepseek => exact openai

theorem NoNull.mapCounts_zeroNull {usage : TokenUsage} (clean : NoNull usage) :
    TokenUsage.mapCounts zeroNull usage = usage := by
  simp only [TokenUsage.mapCounts, zeroNull_eq_self.mpr clean.input,
    zeroNull_eq_self.mpr clean.output, zeroNull_eq_self.mpr clean.reasoning,
    zeroNull_eq_self.mpr clean.cacheRead, zeroNull_eq_self.mpr clean.cacheWrite,
    zeroNull_eq_self.mpr clean.audioInput, zeroNull_eq_self.mpr clean.audioOutput]

/-! ## Transparency -/

theorem disjointUsage_ok {provider : Provider} {raw usage : TokenUsage}
    (extracted : disjointUsage provider raw = .ok usage) :
    ∃ output, usage = { raw with outputTokens := output } ∧
      disjointUsage provider (TokenUsage.mapCounts zeroNull raw) =
        .ok { TokenUsage.mapCounts zeroNull raw with
          outputTokens := if reasoningInOutput provider then output else zeroNull output } ∧
      (reasoningInOutput provider = true →
        raw.outputTokens ≠ .null ∧ raw.reasoningTokens ≠ .null) ∧
      (reasoningInOutput provider = false → output = raw.outputTokens) := by
  cases inOutput : reasoningInOutput provider with
  | false =>
    simp only [disjointUsage, inOutput] at extracted ⊢
    cases extracted
    exact ⟨raw.outputTokens, rfl, rfl, by simp, fun _ => rfl⟩
  | true =>
    simp only [disjointUsage, inOutput, if_true, bind_eq_ok] at extracted ⊢
    obtain ⟨output, outputNumber, reasoning, reasoningNumber, difference, subtracted, same⟩ :=
      extracted
    cases same
    -- a count that is a number is not null, so the subtraction is the same one
    have outputCount : raw.outputTokens ≠ .null := by
      rintro null; rw [null] at outputNumber; cases outputNumber
    have reasoningCount : raw.reasoningTokens ≠ .null := by
      rintro null; rw [null] at reasoningNumber; cases reasoningNumber
    refine ⟨difference.max0.toJson, rfl, ?_, fun _ => ⟨outputCount, reasoningCount⟩, by simp⟩
    refine ⟨output, ?_, reasoning, ?_, difference, subtracted, rfl⟩
    · simpa only [TokenUsage.mapCounts, zeroNull_eq_self.mpr outputCount] using outputNumber
    · simpa only [TokenUsage.mapCounts, zeroNull_eq_self.mpr reasoningCount] using reasoningNumber

theorem disjointUsage_zeroNull {provider : Provider} {raw : TokenUsage} :
    usageOrEmpty (disjointUsage provider raw) =
        usageOrEmpty (disjointUsage provider (TokenUsage.mapCounts zeroNull raw)) ↔
      NullsHarmless provider raw := by
  constructor
  · intro same
    by_cases clean : NoNull raw
    · exact .inl clean
    · refine .inr ?_
      cases extracted : disjointUsage provider raw with
      | error error => rw [extracted] at same; exact ⟨rfl, same.symm⟩
      | ok usage =>
        refine absurd ?_ clean
        -- an extraction that succeeds keeps every count but the output, so equal records have equal counts
        obtain ⟨output, rfl, zeros, numbers, kept⟩ := disjointUsage_ok extracted
        rw [extracted, zeros] at same
        simp only [usageOrEmpty, TokenUsage.mapCounts, TokenUsage.mk.injEq] at same
        obtain ⟨input, outputs, reasoning, cacheRead, cacheWrite, audioInput, audioOutput, -⟩ := same
        refine ⟨zeroNull_eq_self.mp input.symm, ?_, zeroNull_eq_self.mp reasoning.symm,
          zeroNull_eq_self.mp cacheRead.symm, zeroNull_eq_self.mp cacheWrite.symm,
          zeroNull_eq_self.mp audioInput.symm, zeroNull_eq_self.mp audioOutput.symm⟩
        cases inOutput : reasoningInOutput provider with
        | true => exact (numbers inOutput).1
        | false =>
          rw [inOutput, kept inOutput] at outputs
          exact zeroNull_eq_self.mp outputs.symm
  · rintro (clean | ⟨raises, zeros⟩)
    · rw [clean.mapCounts_zeroNull]
    · cases extracted : disjointUsage provider raw with
      | error error => exact zeros.symm
      | ok usage => rw [extracted] at raises; cases raises

/-- The upstream status and body come back, and null counts are recorded as 0. -/
def Transparent (tables : PricingTables) (today : Date) (provider : Provider) (model eventId : Str)
    (response : UpstreamResponse) : Prop :=
  ∃ answer record,
    handleNonStreaming tables today provider model eventId response = .ok (answer, record) ∧
      answer.statusCode = response.statusCode ∧ answer.body = response.content ∧
      record.usage = guardedUsage provider (response.json.map nullsAsZero)

/-- The counts of the answer can be billed where the model has a price, and its nulls are
    harmless. -/
def Accountable (tables : PricingTables) (today : Date) (provider : Provider) (model : Str)
    (response : UpstreamResponse) : Prop :=
  (∀ pricing, resolvePricing tables today provider.name (.str model) = .ok (some pricing) →
      Billable provider.name (guardedUsage provider response.json)) ∧
    ∀ body, response.json = some body → ∀ raw, rawUsage provider body = .ok raw →
      NullsHarmless provider raw

theorem handleNonStreaming_ok {tables : PricingTables} {today : Date} {provider : Provider}
    {model : Str} (eventId : Str) {response : UpstreamResponse} {cost : Flt}
    (priced : calculateCost tables today provider.name (.str model)
      (guardedUsage provider response.json) = .ok cost) :
    ∃ answer record,
      handleNonStreaming tables today provider model eventId response = .ok (answer, record) ∧
        answer.statusCode = response.statusCode ∧ answer.body = response.content ∧
        record.usage = guardedUsage provider response.json := by
  simp only [handleNonStreaming, priced, bind, Except.bind]
  exact ⟨_, _, rfl, rfl, rfl, rfl⟩

theorem handleNonStreaming_priced {tables : PricingTables} {today : Date} {provider : Provider}
    {model eventId : Str} {response : UpstreamResponse} {result : Answer × UsageRecord}
    (returned : handleNonStreaming tables today provider model eventId response = .ok result) :
    (∃ cost, calculateCost tables today provider.name (.str model)
      (guardedUsage provider response.json) = .ok cost) ∧
      result.2.usage = guardedUsage provider response.json := by
  simp only [handleNonStreaming, bind_eq_ok] at returned
  obtain ⟨cost, priced, same⟩ := returned
  cases same
  exact ⟨⟨cost, priced⟩, rfl⟩

theorem guardedUsage_nullsAsZero {provider : Provider} {json : Option Json} :
    guardedUsage provider json = guardedUsage provider (json.map nullsAsZero) ↔
      ∀ body, json = some body → ∀ raw, rawUsage provider body = .ok raw →
        NullsHarmless provider raw := by
  cases json with
  | none => simp [guardedUsage]
  | some body =>
    simp only [guardedUsage, Option.map_some, extractUsage_eq, rawUsage_nullsAsZero,
      Option.some.injEq, forall_eq']
    cases rawUsage provider body with
    | error error => simp [Except.map, bind, Except.bind]
    | ok raw =>
      simp only [Except.map, bind, Except.bind, Except.ok.injEq, forall_eq']
      exact disjointUsage_zeroNull

/-- An answer is passed through and accounted for exactly where its counts can be billed and
    none of its nulls does harm. -/
theorem transparent_iff (tables : PricingTables) (today : Date) (provider : Provider)
    (model eventId : Str) (response : UpstreamResponse) :
    Transparent tables today provider model eventId response ↔
      Accountable tables today provider model response := by
  constructor
  · rintro ⟨answer, record, returned, -, -, recorded⟩
    obtain ⟨billed, usage⟩ := handleNonStreaming_priced returned
    -- an answer came back, so the cost was defined; and what was recorded is what zeros give
    refine ⟨calculateCost_ok.mp billed, guardedUsage_nullsAsZero.mp ?_⟩
    rw [← recorded, ← usage]
  · rintro ⟨billable, harmless⟩
    obtain ⟨cost, priced⟩ := calculateCost_ok.mpr billable
    obtain ⟨answer, record, returned, status, body, usage⟩ :=
      handleNonStreaming_ok eventId priced
    refine ⟨answer, record, returned, status, body, ?_⟩
    rw [usage]
    exact guardedUsage_nullsAsZero.mpr harmless

def nullPromptTokens : UpstreamResponse where
  statusCode := 200
  headers := []
  content := "\x7b\"usage\": \x7b\"prompt_tokens\": null\x7d\x7d".toUTF8.toList
  json := some (.obj [("usage", .obj [("prompt_tokens", .null)])])

def gptPricing : PricingTables := fun _ =>
  [("gpt-4o", { rates := { inputPerMillion := some 2.5, outputPerMillion := some 10 } })]

/-- A null prompt count of a priced model takes the answer away from the client. -/
theorem null_prompt_tokens_raise :
    ¬ ∀ tables today provider model eventId response,
      Transparent tables today provider model eventId response := by
  intro transparent
  obtain ⟨answer, record, returned, -⟩ :=
    transparent gptPricing 0 .openai "gpt-4o" "e" nullPromptTokens
  have raised : handleNonStreaming gptPricing 0 .openai "gpt-4o" "e" nullPromptTokens =
      .error .typeError := rfl
  rw [raised] at returned
  cases returned

end BurnLens.Proxy
