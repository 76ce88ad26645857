import BurnLens.Cost.Calculator
import BurnLens.Library.Lines
import BurnLens.Library.Utf8

/-! # Usage of a streamed answer

The events of the accumulated buffer, and what each provider takes from them.  `loads` is
`json.loads`, nothing where it raises; a key that the accumulator lacks counts as 0.
-/

namespace BurnLens.Proxy

open Library Providers Cost

/-! ## One decoded event -/

def visibleOutput (u details : Fields) : Except PyError Number := do
  let reasoning ← (details.getD "reasoning_tokens" (.int 0)).number
  return (← (← (u.getD "completion_tokens" (.int 0)).number).sub reasoning).max0

/-- An exception ends the update, and what was assigned in front of it stays. -/
def accumulateOpenai (acc : TokenUsage) (data : Json) : TokenUsage :=
  match data.dict with
  | .error _ => acc
  | .ok data =>
    let u := data.getD "usage" .null
    if !u.truthy then acc
    else
      match u.dict with
      | .error _ => acc
      | .ok u =>
        match dictOrEmpty (u.getD "completion_tokens_details" .null) with
        | .error _ => acc
        | .ok details =>
          let acc := { acc with inputTokens := u.getD "prompt_tokens" (.int 0) }
          match visibleOutput u details with
          | .error _ => acc
          | .ok output =>
            let acc := { acc with
              outputTokens := output.toJson
              reasoningTokens := details.getD "reasoning_tokens" (.int 0) }
            match dictOrEmpty (u.getD "prompt_tokens_details" .null) with
            | .error _ => acc
            | .ok promptDetails =>
              { acc with
                cacheReadTokens := promptDetails.getD "cached_tokens" (.int 0)
                audioInputTokens := promptDetails.getD "audio_tokens" (.int 0)
                audioOutputTokens := details.getD "audio_tokens" (.int 0) }

def withOutput (acc : TokenUsage) (u : Fields) : TokenUsage :=
  let output := u.getD "output_tokens" .null
  if output.truthy then { acc with outputTokens := output } else acc

/-- `(data.get("message") or {}).get("usage") or {}`. -/
def messageUsage (data : Fields) : Except PyError Fields := do
  let message ← dictOrEmpty (data.getD "message" .null)
  dictOrEmpty (message.getD "usage" .null)

def accumulateAnthropic (acc : TokenUsage) (data : Json) : TokenUsage :=
  match data.dict with
  | .error _ => acc
  | .ok data =>
    let eventType := data.getD "type" .null
    if Json.isText "message_start" eventType then
      match messageUsage data with
      | .error _ => acc
      | .ok u =>
        withOutput { acc with
          inputTokens := u.getD "input_tokens" acc.inputTokens
          cacheReadTokens := u.getD "cache_read_input_tokens" acc.cacheReadTokens
          cacheWriteTokens := u.getD "cache_creation_input_tokens" acc.cacheWriteTokens } u
    else if Json.isText "message_delta" eventType then
      match dictOrEmpty (data.getD "usage" .null) with
      | .error _ => acc
      | .ok u => withOutput acc u
    else acc

def accumulateGoogle (acc : TokenUsage) (data : Json) : TokenUsage :=
  match data.dict with
  | .error _ => acc
  | .ok data =>
    match dictOrEmpty (data.getD "usageMetadata" .null) with
    | .error _ => acc
    | .ok metadata =>
      if metadata.has "promptTokenCount" || metadata.has "candidatesTokenCount" then
        { acc with
          inputTokens := metadata.getD "promptTokenCount" (.int 0)
          outputTokens := metadata.getD "candidatesTokenCount" (.int 0) }
      else acc

def accumulateBedrock (acc : TokenUsage) (u : Fields) : TokenUsage :=
  if u.has "inputTokens" || u.has "outputTokens" then
    let cacheRead := u.getD "cacheReadInputTokens" .null
    let cacheWrite := u.getD "cacheWriteInputTokens" .null
    { acc with
      inputTokens := u.getD "inputTokens" (.int 0)
      outputTokens := u.getD "outputTokens" (.int 0)
      cacheReadTokens := if cacheRead.truthy then cacheRead else acc.cacheReadTokens
      cacheWriteTokens := if cacheWrite.truthy then cacheWrite else acc.cacheWriteTokens }
  else acc

/-- What a provider that streams server-sent events takes from the data of one. -/
def accumulate : Provider → TokenUsage → Json → TokenUsage
  | .anthropic => accumulateAnthropic
  | .google => accumulateGoogle
  | .bedrock => fun acc _ => acc
  | _ => accumulateOpenai

/-! ## The text of an event -/

/-- The payload of a stripped line; Google's may be a line of its own. -/
def payload (provider : Provider) (line : Str) : Option Str :=
  if startsWith "data:" line then some (strip (line.drop 5))
  else if provider = .google && startsWith "\x7b" line then some line
  else none

def lineJson (loads : Str → Option Json) (provider : Provider) (line : Str) : Option Json :=
  match payload provider (strip line) with
  | some text => if text = [] ∨ text = "[DONE]" then none else loads text
  | none => none

def readLine (loads : Str → Option Json) (provider : Provider) (acc : TokenUsage) (line : Str) :
    TokenUsage :=
  match lineJson loads provider line with
  | some data => accumulate provider acc data
  | none => acc

/-- The rest of `_scan_json_object`, up to the brace that closes the object. -/
def scanFrom (depth : Nat) (inStr esc : Bool) : Str → Option Str
  | [] => none
  | c :: s =>
    if inStr then
      if esc then (scanFrom depth true false s).map (c :: ·)
      else if c = '\\' then (scanFrom depth true true s).map (c :: ·)
      else (scanFrom depth (c ≠ '"') false s).map (c :: ·)
    else if c = '"' then (scanFrom depth true false s).map (c :: ·)
    else if c = '{' then (scanFrom (depth + 1) false false s).map (c :: ·)
    else if c = '}' then
      if depth = 1 then some [c] else (scanFrom (depth - 1) false false s).map (c :: ·)
    else (scanFrom depth false false s).map (c :: ·)

/-- `_scan_json_object`, from its start on. -/
def scanJsonObject (s : Str) : Option Str :=
  match s with
  | '{' :: _ => scanFrom 0 false false s
  | _ => none

def readBlob (loads : Str → Option Json) (acc : TokenUsage) (rest : Str) : TokenUsage :=
  match (scanJsonObject (rest.dropWhile (· ≠ '{'))).bind loads with
  | some (.obj u) => accumulateBedrock acc u
  | _ => acc

def scanUsage (loads : Str → Option Json) (acc : TokenUsage) : Str → TokenUsage
  | [] => acc
  | c :: s =>
    if startsWith "\"usage\"" (c :: s) then
      scanUsage loads (readBlob loads acc ((c :: s).drop 7)) s
    else scanUsage loads acc s

def extractUsageFromStreamChunk (loads : Str → Option Json) (provider : Provider) (acc : TokenUsage)
    (chunk : Str) : TokenUsage :=
  match provider with
  | .bedrock => scanUsage loads acc chunk
  | provider => (splitlines chunk).foldl (readLine loads provider) acc

/-- The texts one of which an event with usage holds. -/
def usageMarkers : Provider → List Str
  | .anthropic => ["\"usage\"", "message_start", "message_delta"]
  | .google => ["usageMetadata"]
  | .bedrock => ["inputTokens", "\"usage\""]
  | _ => ["\"usage\""]

def shouldBufferChunk (provider : Provider) (chunk : Str) : Bool :=
  (usageMarkers provider).any fun marker => contains marker chunk

def splitSseEvents (provider : Provider) (rawBuffer : Str) : List Str :=
  (((splitBlank rawBuffer).map strip).filter fun event =>
    !event.isEmpty && shouldBufferChunk provider event).map (· ++ ['\n', '\n'])

def extractUsageFromStream (loads : Str → Option Json) (provider : Provider)
    (usageChunks : List Str) : TokenUsage :=
  usageChunks.foldl (extractUsageFromStreamChunk loads provider) {}

/-- The buffer of `_stream_generator`: each chunk is decoded on its own. -/
def rawBuffer (chunks : List (List UInt8)) : Str := (chunks.map decodeIgnore).flatten

def streamUsage (loads : Str → Option Json) (provider : Provider) (chunks : List (List UInt8)) :
    TokenUsage :=
  extractUsageFromStream loads provider (splitSseEvents provider (rawBuffer chunks))

/-! ## Lines that are read -/

section

variable {loads : Str → Option Json} {provider : Provider}

theorem payload_eq_none {line : Str} (noData : startsWith "data:" line = false)
    (noObject : startsWith "\x7b" line = false) : payload provider line = none := by
  rw [payload, if_neg (by rw [noData]; exact Bool.false_ne_true),
    if_neg (by rw [noObject, Bool.and_false]; exact Bool.false_ne_true)]

theorem lineJson_eq_none {line : Str} (noPayload : payload provider (strip line) = none) :
    lineJson loads provider line = none := by
  rw [lineJson, noPayload]

theorem lineJson_data {line text : Str} (starts : startsWith "data:" (strip line) = true)
    (stripped : strip ((strip line).drop 5) = text) (filled : text ≠ []) (notDone : text ≠ "[DONE]") :
    lineJson loads provider line = loads text := by
  rw [lineJson, payload, if_pos starts, stripped]
  exact if_neg fun skipped => skipped.elim filled notDone

theorem readLine_strip (acc : TokenUsage) (line : Str) :
    readLine loads provider acc (strip line) = readLine loads provider acc line := by
  simp only [readLine, lineJson, strip_strip]

theorem readLine_blank (acc : TokenUsage) {line : Str} (blank : strip line = []) :
    readLine loads provider acc line = acc := by
  simp [readLine, lineJson, payload, blank, startsWith]

theorem foldl_dropBlank (acc : TokenUsage) (lines : List Str) :
    (dropBlank lines).foldl (readLine loads provider) acc =
      lines.foldl (readLine loads provider) acc := by
  induction lines generalizing acc with
  | nil => rfl
  | cons line lines inductionHypothesis =>
    rw [List.foldl_cons, ← inductionHypothesis]
    by_cases blank : strip line = []
    · simp [dropBlank, blank, readLine_blank acc blank]
    · simp [dropBlank, blank, readLine_strip]

theorem extractUsageFromStreamChunk_eq (sse : provider ≠ .bedrock) (acc : TokenUsage) (chunk : Str) :
    extractUsageFromStreamChunk loads provider acc chunk =
      (textLines chunk).foldl (readLine loads provider) acc := by
  rw [textLines, foldl_dropBlank]
  cases provider with
  | bedrock => exact absurd rfl sse
  | _ => rfl

end

end BurnLens.Proxy
