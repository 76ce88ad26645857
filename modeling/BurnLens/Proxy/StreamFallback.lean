import BurnLens.Library.LastWrite
import BurnLens.Proxy.Streaming

/-! # The built-in extractors

`extract_usage_from_stream` reads a stream with the accumulator of the registered provider, or with
a built-in extractor where the registry has no such provider.  The accumulator of OpenAI is assigned
field by field, and keeps what was assigned before an exception; the built-in extractor replaces the
whole usage, or nothing of it.
-/

namespace BurnLens.Proxy

open Library Providers Cost

/-! ## The extractors -/

/-- The loop of the three extractors over the lines of the events. -/
def foldData {σ : Type} (loads : Str → Option Json) (provider : Provider) (step : σ → Json → σ)
    (start : σ) (chunks : List Str) : σ :=
  chunks.foldl (fun s chunk =>
    (splitlines chunk).foldl (fun s line =>
      match lineJson loads provider line with
      | some data => step s data
      | none => s) s) start

/-- The usage that an event replaces the last one with. -/
def replacementOpenai (data : Json) : Except PyError (Option TokenUsage) := do
  let u := (← data.dict).getD "usage" .null
  if !u.truthy then return none
  let u ← u.dict
  let details ← dictOrEmpty (u.getD "completion_tokens_details" .null)
  let output ← visibleOutput u details
  let promptDetails ← dictOrEmpty (u.getD "prompt_tokens_details" .null)
  return some {
    inputTokens := u.getD "prompt_tokens" (.int 0)
    outputTokens := output.toJson
    reasoningTokens := details.getD "reasoning_tokens" (.int 0)
    cacheReadTokens := promptDetails.getD "cached_tokens" (.int 0)
    audioInputTokens := promptDetails.getD "audio_tokens" (.int 0)
    audioOutputTokens := details.getD "audio_tokens" (.int 0) }

def replacementGoogle (data : Json) : Except PyError (Option TokenUsage) := do
  let metadata ← dictOrEmpty ((← data.dict).getD "usageMetadata" .null)
  if metadata.has "promptTokenCount" || metadata.has "candidatesTokenCount" then
    return some {
      inputTokens := metadata.getD "promptTokenCount" (.int 0)
      outputTokens := metadata.getD "candidatesTokenCount" (.int 0) }
  else return none

def replace (replacement : Json → Except PyError (Option TokenUsage)) (usage : TokenUsage)
    (data : Json) : TokenUsage :=
  match replacement data with
  | .ok (some usage) => usage
  | _ => usage

/-- The variables of `_extract_anthropic_stream`. -/
structure MessageCounts where
  inputTokens : Json := .int 0
  outputTokens : Json := .int 0
  cacheReadTokens : Json := .int 0
  cacheWriteTokens : Json := .int 0

namespace MessageCounts

variable (counts : MessageCounts)

def withOutput (u : Fields) : MessageCounts :=
  let output := u.getD "output_tokens" .null
  if output.truthy then { counts with outputTokens := output } else counts

/-- What `message_start` and `message_delta` update; an exception comes before any assignment. -/
def update (data : Json) : MessageCounts :=
  match data.dict with
  | .error _ => counts
  | .ok data =>
    let eventType := data.getD "type" .null
    if Json.isText "message_start" eventType then
      match messageUsage data with
      | .error _ => counts
      | .ok u =>
        withOutput {
          inputTokens := u.getD "input_tokens" counts.inputTokens
          outputTokens := counts.outputTokens
          cacheReadTokens := u.getD "cache_read_input_tokens" counts.cacheReadTokens
          cacheWriteTokens := u.getD "cache_creation_input_tokens" counts.cacheWriteTokens } u
    else if Json.isText "message_delta" eventType then
      match dictOrEmpty (data.getD "usage" .null) with
      | .error _ => counts
      | .ok u => counts.withOutput u
    else counts

def usage : TokenUsage where
  inputTokens := counts.inputTokens
  outputTokens := counts.outputTokens
  cacheReadTokens := counts.cacheReadTokens
  cacheWriteTokens := counts.cacheWriteTokens

end MessageCounts

def extractOpenaiStream (loads : Str → Option Json) (chunks : List Str) : TokenUsage :=
  foldData loads .openai (replace replacementOpenai) {} chunks

def extractAnthropicStream (loads : Str → Option Json) (chunks : List Str) : TokenUsage :=
  (foldData loads .anthropic MessageCounts.update {} chunks).usage

def extractGoogleStream (loads : Str → Option Json) (chunks : List Str) : TokenUsage :=
  foldData loads .google (replace replacementGoogle) {} chunks

/-- `extract_usage_from_stream` where the registry does not have the provider. -/
def unregisteredUsage (loads : Str → Option Json) : Provider → List Str → TokenUsage
  | .openai => extractOpenaiStream loads
  | .anthropic => extractAnthropicStream loads
  | .google => extractGoogleStream loads
  | _ => fun _ => {}

/-! ## How far an update gets -/

/-- What the accumulator is assigned of a usage object. -/
inductive UsageReading where
  | nothing
  -- the output tokens raise
  | prompt (inputTokens : Json)
  -- the prompt details are no object
  | output (inputTokens outputTokens reasoningTokens : Json)
  | whole (usage : TokenUsage)

namespace UsageReading

def isWhole : UsageReading → Bool
  | whole _ => true
  | _ => false

def assign (acc : TokenUsage) : UsageReading → TokenUsage
  | nothing => acc
  | prompt inputTokens => { acc with inputTokens }
  | output inputTokens outputTokens reasoningTokens =>
    { acc with inputTokens, outputTokens, reasoningTokens }
  | whole usage => usage

def replaceBy (usage : TokenUsage) : UsageReading → TokenUsage
  | whole usage => usage
  | _ => usage

/-- What an update that breaks off assigns. -/
def inputTokens : UsageReading → Option Json
  | prompt inputTokens | output inputTokens _ _ => some inputTokens
  | _ => none

def outputTokens : UsageReading → Option (Json × Json)
  | output _ outputTokens reasoningTokens => some (outputTokens, reasoningTokens)
  | _ => none

end UsageReading

def readOpenai (data : Json) : UsageReading :=
  match data.dict with
  | .error _ => .nothing
  | .ok data =>
    let u := data.getD "usage" .null
    if !u.truthy then .nothing
    else
      match u.dict with
      | .error _ => .nothing
      | .ok u =>
        match dictOrEmpty (u.getD "completion_tokens_details" .null) with
        | .error _ => .nothing
        | .ok details =>
          let inputTokens := u.getD "prompt_tokens" (.int 0)
          match visibleOutput u details with
          | .error _ => .prompt inputTokens
          | .ok output =>
            let outputTokens := output.toJson
            let reasoningTokens := details.getD "reasoning_tokens" (.int 0)
            match dictOrEmpty (u.getD "prompt_tokens_details" .null) with
            | .error _ => .output inputTokens outputTokens reasoningTokens
            | .ok promptDetails => .whole {
                inputTokens, outputTokens, reasoningTokens
                cacheReadTokens := promptDetails.getD "cached_tokens" (.int 0)
                audioInputTokens := promptDetails.getD "audio_tokens" (.int 0)
                audioOutputTokens := details.getD "audio_tokens" (.int 0) }

def streamData (loads : Str → Option Json) (provider : Provider) (chunks : List Str) : List Json :=
  (chunks.flatMap splitlines).filterMap (lineJson loads provider)

def lastWhole (readings : List UsageReading) : TokenUsage :=
  (lastWrite (fun | .whole usage => some usage | _ => none) readings).getD {}

/-- Behind the last complete usage object, the last that breaks off repeats its prompt tokens, and
    the last that breaks off at the prompt details its output and reasoning tokens. -/
def Repeats (readings : List UsageReading) : Prop :=
  let usage := lastWhole readings
  let behind := readings.rtakeWhile fun reading => !reading.isWhole
  (∀ inputTokens ∈ lastWrite UsageReading.inputTokens behind, inputTokens = usage.inputTokens) ∧
    ∀ outputs ∈ lastWrite UsageReading.outputTokens behind,
      outputs = (usage.outputTokens, usage.reasoningTokens)

section

variable {loads : Str → Option Json} {provider : Provider}

theorem foldData_eq {σ : Type} (step : σ → Json → σ) (start : σ) (chunks : List Str) :
    foldData loads provider step start chunks =
      (streamData loads provider chunks).foldl step start := by
  have lines : ∀ (lines : List Str) (s : σ), lines.foldl (fun s line =>
      match lineJson loads provider line with
      | some data => step s data
      | none => s) s = (lines.filterMap (lineJson loads provider)).foldl step s := by
    intro lines
    induction lines with
    | nil => exact fun s => rfl
    | cons line lines inductionHypothesis =>
      intro s
      rw [List.foldl_cons, inductionHypothesis]
      cases read : lineJson loads provider line with
      | none => rw [List.filterMap_cons_none read]
      | some data => rw [List.filterMap_cons_some read, List.foldl_cons]
  rw [streamData, foldData]
  induction chunks generalizing start with
  | nil => rfl
  | cons chunk chunks inductionHypothesis =>
    rw [List.foldl_cons, inductionHypothesis, lines, List.flatMap_cons, List.filterMap_append,
      List.foldl_append]

theorem extractUsageFromStream_eq (sse : provider ≠ .bedrock) (chunks : List Str) :
    extractUsageFromStream loads provider chunks =
      (streamData loads provider chunks).foldl (accumulate provider) {} := by
  rw [← foldData_eq, extractUsageFromStream, foldData]
  cases provider with
  | bedrock => exact absurd rfl sse
  | _ => rfl

end

/-! ## OpenAI -/

/-- The fields of a usage that no event of OpenAI assigns. -/
structure Untouched (usage : TokenUsage) : Prop where
  cacheWrite : usage.cacheWriteTokens = .int 0
  units : usage.units = []

theorem accumulateOpenai_eq {acc : TokenUsage} (untouched : Untouched acc) (data : Json) :
    accumulateOpenai acc data = (readOpenai data).assign acc ∧
      Untouched (accumulateOpenai acc data) := by
  obtain ⟨cacheWrite, units⟩ := untouched
  unfold accumulateOpenai readOpenai
  cases data.dict with
  | error error => exact ⟨rfl, cacheWrite, units⟩
  | ok fields =>
    simp only
    split
    · exact ⟨rfl, cacheWrite, units⟩
    · cases (fields.getD "usage" .null).dict with
      | error error => exact ⟨rfl, cacheWrite, units⟩
      | ok u =>
        simp only
        cases dictOrEmpty (u.getD "completion_tokens_details" .null) with
        | error error => exact ⟨rfl, cacheWrite, units⟩
        | ok details =>
          simp only
          cases visibleOutput u details with
          | error error => exact ⟨rfl, cacheWrite, units⟩
          | ok output =>
            simp only
            cases dictOrEmpty (u.getD "prompt_tokens_details" .null) with
            | error error => exact ⟨rfl, cacheWrite, units⟩
            | ok promptDetails => exact ⟨by rw [UsageReading.assign, cacheWrite, units], cacheWrite, units⟩

theorem replaceOpenai_eq (usage : TokenUsage) (data : Json) :
    replace replacementOpenai usage data = (readOpenai data).replaceBy usage := by
  unfold replace replacementOpenai readOpenai
  cases data.dict with
  | error error => rfl
  | ok fields =>
    simp only [bind, Except.bind]
    cases (fields.getD "usage" .null).truthy with
    | false => rfl
    | true =>
      simp only [Bool.not_true, Bool.false_eq_true, if_false]
      cases (fields.getD "usage" .null).dict with
      | error error => rfl
      | ok u =>
        simp only
        cases dictOrEmpty (u.getD "completion_tokens_details" .null) with
        | error error => rfl
        | ok details =>
          simp only
          cases visibleOutput u details with
          | error error => rfl
          | ok output =>
            simp only
            cases dictOrEmpty (u.getD "prompt_tokens_details" .null) <;> rfl

theorem foldl_accumulateOpenai {acc : TokenUsage} (untouched : Untouched acc) (datas : List Json) :
    datas.foldl accumulateOpenai acc = (datas.map readOpenai).foldl UsageReading.assign acc := by
  induction datas generalizing acc with
  | nil => rfl
  | cons data datas inductionHypothesis =>
    obtain ⟨same, untouched'⟩ := accumulateOpenai_eq untouched data
    rw [List.foldl_cons, inductionHypothesis untouched', List.map_cons, List.foldl_cons, same]

theorem foldl_replaceBy (readings : List UsageReading) :
    readings.foldl UsageReading.replaceBy {} = lastWhole readings := by
  suffices general : ∀ usage : TokenUsage, readings.foldl UsageReading.replaceBy usage =
      (lastWrite (fun | .whole usage => some usage | _ => none) readings).getD usage from general {}
  induction readings with
  | nil => exact fun usage => rfl
  | cons reading readings inductionHypothesis =>
    intro usage
    rw [List.foldl_cons, inductionHypothesis, lastWrite_cons]
    cases reading <;> rfl

/-- The accumulator has that object as well, but for what was assigned behind it. -/
theorem foldl_assign (readings : List UsageReading) :
    let usage := lastWhole readings
    let behind := readings.rtakeWhile fun reading => !reading.isWhole
    readings.foldl UsageReading.assign {} = { usage with
      inputTokens := (lastWrite UsageReading.inputTokens behind).getD usage.inputTokens
      outputTokens := ((lastWrite UsageReading.outputTokens behind).getD
        (usage.outputTokens, usage.reasoningTokens)).1
      reasoningTokens := ((lastWrite UsageReading.outputTokens behind).getD
        (usage.outputTokens, usage.reasoningTokens)).2 } := by
  induction readings using List.reverseRecOn with
  | nil => rfl
  | append_singleton readings reading inductionHypothesis =>
    have last : lastWhole (readings ++ [reading]) = reading.replaceBy (lastWhole readings) := by
      rw [← foldl_replaceBy, ← foldl_replaceBy, List.foldl_append]
      rfl
    simp only at inductionHypothesis ⊢
    rw [List.foldl_append, inductionHypothesis, last]
    cases reading with
    | whole usage =>
      rw [List.rtakeWhile_concat_neg _ _ _ (by simp [UsageReading.isWhole])]
      rfl
    | nothing | prompt | output =>
      rw [List.rtakeWhile_concat_pos _ _ _ rfl]
      simp only [lastWrite_append]
      rfl

theorem getD_eq_self {α : Type*} {o : Option α} {x : α} : o.getD x = x ↔ ∀ y ∈ o, y = x := by
  cases o <;> simp

/-- The two have the same usage exactly where what breaks off repeats it. -/
theorem foldl_openai_iff (datas : List Json) :
    datas.foldl accumulateOpenai {} = datas.foldl (replace replacementOpenai) {} ↔
      Repeats (datas.map readOpenai) := by
  have replaced : ∀ (datas : List Json) (usage : TokenUsage),
      datas.foldl (replace replacementOpenai) usage =
        (datas.map readOpenai).foldl UsageReading.replaceBy usage := by
    intro datas usage
    simp only [List.foldl_map, ← replaceOpenai_eq]
  rw [foldl_accumulateOpenai ⟨rfl, rfl⟩, replaced, foldl_assign, foldl_replaceBy, Repeats]
  rw [← getD_eq_self, ← getD_eq_self, Prod.ext_iff]
  cases lastWhole (datas.map readOpenai)
  simp [TokenUsage.mk.injEq]

/-! ## Anthropic and Google -/

theorem withOutput_usage (counts : MessageCounts) (u : Fields) :
    (counts.withOutput u).usage = withOutput counts.usage u := by
  unfold MessageCounts.withOutput withOutput
  simp only
  split <;> rfl

/-- The variables of the built-in extractor are what the accumulator holds. -/
theorem update_usage (counts : MessageCounts) (data : Json) :
    (counts.update data).usage = accumulateAnthropic counts.usage data := by
  unfold MessageCounts.update accumulateAnthropic
  cases data.dict with
  | error error => rfl
  | ok fields =>
    simp only
    split
    · cases messageUsage fields with
      | error error => rfl
      | ok u => exact withOutput_usage _ u
    · split
      · cases dictOrEmpty (fields.getD "usage" .null) with
        | error error => rfl
        | ok u => exact withOutput_usage _ u
      · rfl

theorem foldl_update (counts : MessageCounts) (datas : List Json) :
    datas.foldl accumulateAnthropic counts.usage = (datas.foldl MessageCounts.update counts).usage := by
  induction datas generalizing counts with
  | nil => rfl
  | cons data datas inductionHypothesis =>
    rw [List.foldl_cons, ← update_usage, inductionHypothesis, List.foldl_cons]

/-- Google's events assign the two fields that a replacement has. -/
theorem foldl_replacementGoogle (input output : Json) (datas : List Json) :
    datas.foldl accumulateGoogle { inputTokens := input, outputTokens := output } =
      datas.foldl (replace replacementGoogle) { inputTokens := input, outputTokens := output } := by
  induction datas generalizing input output with
  | nil => rfl
  | cons data datas inductionHypothesis =>
    rw [List.foldl_cons, List.foldl_cons]
    unfold accumulateGoogle replace replacementGoogle
    cases data.dict with
    | error error => exact inductionHypothesis input output
    | ok fields =>
      simp only [bind, Except.bind]
      cases dictOrEmpty (fields.getD "usageMetadata" .null) with
      | error error => exact inductionHypothesis input output
      | ok metadata =>
        simp only
        split
        · exact inductionHypothesis _ _
        · exact inductionHypothesis input output

/-- The accumulator and the built-in extractor find the same usage: always for Anthropic and
    Google, and for OpenAI exactly where what breaks off behind the last complete usage object
    repeats it. -/
theorem extractors_agree (loads : Str → Option Json) {provider : Provider}
    (builtIn : provider ∈ [Provider.openai, .anthropic, .google]) (chunks : List Str) :
    extractUsageFromStream loads provider chunks = unregisteredUsage loads provider chunks ↔
      (provider = .openai → Repeats ((streamData loads .openai chunks).map readOpenai)) := by
  have sse : provider ≠ .bedrock := by
    rintro rfl
    exact absurd builtIn (by decide)
  rw [extractUsageFromStream_eq sse]
  simp only [List.mem_cons, List.not_mem_nil, or_false] at builtIn
  obtain rfl | rfl | rfl := builtIn
  · simp only [unregisteredUsage, extractOpenaiStream, foldData_eq, forall_const]
    exact foldl_openai_iff _
  · simp only [unregisteredUsage, extractAnthropicStream, foldData_eq]
    exact iff_of_true (foldl_update {} _) (fun other => by cases other)
  · simp only [unregisteredUsage, extractGoogleStream, foldData_eq]
    exact iff_of_true (foldl_replacementGoogle _ _ _) (fun other => by cases other)

def brokenText : Str :=
  "\x7b\"usage\":\x7b" ++ "\"prompt_tokens\":5," ++ "\"completion_tokens\":null\x7d\x7d"

def brokenLoads (text : Str) : Option Json :=
  if text = brokenText then
    some (.obj [("usage", .obj [("prompt_tokens", .int 5), ("completion_tokens", .null)])])
  else none

def brokenEvent : Str := "data: " ++ brokenText ++ "\n\n"

theorem extractors_agree_broken :
    extractUsageFromStream brokenLoads .openai [brokenEvent] =
        unregisteredUsage brokenLoads .openai [brokenEvent] ↔
      (Provider.openai = .openai →
        Repeats ((streamData brokenLoads .openai [brokenEvent]).map readOpenai)) :=
  extractors_agree brokenLoads (by decide) [brokenEvent]

/-- The accumulator keeps the prompt tokens of an update that raises. -/
theorem broken_usage_kept :
    ¬ ∀ (loads : Str → Option Json) (provider : Provider),
      provider ∈ [Provider.openai, .anthropic, .google] → ∀ chunks : List Str,
        extractUsageFromStream loads provider chunks = unregisteredUsage loads provider chunks := by
  intro claim
  have same := claim brokenLoads .openai (by decide) [brokenEvent]
  have kept : extractUsageFromStream brokenLoads .openai [brokenEvent] =
      { inputTokens := .int 5 } := by
    rfl
  have dropped : unregisteredUsage brokenLoads .openai [brokenEvent] = {} := by rfl
  rw [kept, dropped] at same
  cases same

end BurnLens.Proxy
