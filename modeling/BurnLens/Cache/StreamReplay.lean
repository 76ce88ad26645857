import BurnLens.Cache.Manager
import BurnLens.Library.JsonDumps
import BurnLens.Proxy.Streaming

/-! # Cached streams

`reconstruct_complete_response_from_chunks`, which makes the body that is cached for a stream, and
`reconstruct_streaming_chunks`, which makes a stream of a cached body.  A text stands for its bytes.
-/

namespace BurnLens.Cache

open Library Providers Proxy

/-- `json.loads`, nothing where it raises, and the text that `json.dumps` writes for a float.  A line
    of a JSON text does not begin like a field of an event. -/
structure JsonModule where
  loads : Str → Option Json
  floatText : Flt → Str
  printable : ∀ x, Printable (floatText x)
  rejects : ∀ front rest : Str, (∀ c, front.getLast? = some c → c = '\r' ∨ c = '\n') →
    ∀ field ∈ ["data:".toList, "event:".toList], loads (front ++ (field ++ rest)) = none

def JsonModule.dumps (json : JsonModule) : Json → Str := Library.dumps json.floatText

/-- `value[0]`. -/
def firstItem : Json → Except PyError Json
  | .arr (item :: _) => .ok item
  | .str (c :: _) => .ok (.str [c])
  | _ => .error .typeError

/-- `value.get(key, default)`. -/
def getKey (value : Json) (key : Str) (default : Json) : Except PyError Json := do
  return (← value.dict).getD key default

/-! ## The cached body -/

def openaiDelta (data : Json) : Except PyError Json := do
  let choices ← getKey data "choices" .null
  if choices.truthy then
    let delta ← getKey (← firstItem choices) "delta" .null
    getKey (delta.orElse (.obj [])) "content" (.str [])
  else return .str []

def anthropicDelta (data : Json) : Except PyError Json := do
  if Json.isText "content_block_delta" (← getKey data "type" .null) then
    let delta ← getKey data "delta" .null
    getKey (delta.orElse (.obj [])) "text" (.str [])
  else return .str []

def googleDelta (data : Json) : Except PyError Json := do
  let candidates ← getKey data "candidates" .null
  if candidates.truthy then
    let content ← getKey (← firstItem candidates) "content" (.obj [])
    let parts ← getKey content "parts" .null
    if parts.truthy then getKey (← firstItem parts) "text" (.str [])
    else return .str []
  else return .str []

def delta : Provider → Json → Except PyError Json
  | .openai => openaiDelta
  | .anthropic => anthropicDelta
  | .google => googleDelta
  | _ => fun _ => return .str []

/-- `full_content += text`, where neither this nor what gave the text raises. -/
def addText (fullContent : Str) : Except PyError Json → Str
  | .ok (.str text) => fullContent ++ text
  | _ => fullContent

def readChunkLine (json : JsonModule) (provider : Provider) (fullContent chunkLine : Str) : Str :=
  let line := strip chunkLine
  if startsWith "data:" line then
    let payload := strip (line.drop 5)
    if payload = [] ∨ payload = "[DONE]" then fullContent
    else
      match json.loads payload with
      | some data => addText fullContent (delta provider data)
      | none => fullContent
  else fullContent

def fullContent (json : JsonModule) (provider : Provider) (chunks : List Str) : Str :=
  chunks.foldl (readChunkLine json provider) []

/-- The response object, for the providers that have one. -/
def completeResponse (provider : Provider) (fullContent : Str) : Option Fields :=
  match provider with
  | .openai => some [("choices", .arr [.obj [("message",
      .obj [("role", .str "assistant"), ("content", .str fullContent)])]])]
  | .anthropic => some [("content", .arr [.obj [("type", .str "text"), ("text", .str fullContent)]])]
  | .google => some [("candidates", .arr [.obj [("content",
      .obj [("parts", .arr [.obj [("text", .str fullContent)]])])]])]
  | _ => none

def reconstructCompleteResponseFromChunks (json : JsonModule) (provider : Provider)
    (chunks : List Str) : Str :=
  match completeResponse provider (fullContent json provider chunks) with
  | some res => json.dumps (.obj res)
  | none => []

/-! ## The stream of a cached body -/

def dataEvent (payload : Str) : Str := "data: ".toList ++ payload ++ ['\n', '\n']

def namedEvent (name payload : Str) : Str := "event: ".toList ++ name ++ '\n' :: dataEvent payload

def openaiChunk (now : Int) (data delta : Fields) (finishReason : Json) : Json :=
  .obj [
    ("id", data.getD "id" (.str "chatcmpl-cached")),
    ("object", .str "chat.completion.chunk"),
    ("created", data.getD "created" (.int now)),
    ("model", data.getD "model" (.str "cached-model")),
    ("choices", .arr [.obj [("index", .int 0), ("delta", .obj delta), ("finish_reason", finishReason)]])]

def openaiContent (data : Fields) : Except PyError Json := do
  let choices := (Fields.getD data "choices" .null).orElse (.arr [])
  if choices.truthy then
    getKey (← getKey (← firstItem choices) "message" (.obj [])) "content" (.str [])
  else return .str []

def openaiChunks (now : Int) (data : Fields) (content : Json) : List Json :=
  openaiChunk now data [("role", .str "assistant")] .null ::
    (if content.truthy then [openaiChunk now data [("content", content)] .null] else []) ++
    [openaiChunk now data [] (.str "stop")]

/-- The text of a part that is a dictionary of type `text`. -/
def textPart : Json → Option Json
  | .obj part =>
    if Json.isText "text" (Fields.getD part "type" .null) then some (Fields.getD part "text" (.str []))
    else none
  | _ => none

def anthropicContent (data : Fields) : Except PyError Json :=
  match iterate ((Fields.getD data "content" .null).orElse (.arr [])) with
  | some contents => .ok ((contents.findSome? textPart).getD (.str []))
  | none => .error .typeError

def messageStart (data : Fields) : Str × Json :=
  ("message_start", .obj [
    ("type", .str "message_start"),
    ("message", .obj [
      ("id", data.getD "id" (.str "msg_cached")),
      ("type", .str "message"),
      ("role", .str "assistant"),
      ("content", .arr []),
      ("model", data.getD "model" (.str "cached-model")),
      ("stop_reason", .null),
      ("stop_sequence", .null),
      ("usage", .obj [("input_tokens", .int 0), ("output_tokens", .int 0)])])])

def contentBlockStart : Str × Json :=
  ("content_block_start", .obj [
    ("type", .str "content_block_start"),
    ("index", .int 0),
    ("content_block", .obj [("type", .str "text"), ("text", .str [])])])

def contentBlockDelta (content : Json) : Str × Json :=
  ("content_block_delta", .obj [
    ("type", .str "content_block_delta"),
    ("index", .int 0),
    ("delta", .obj [("type", .str "text_delta"), ("text", content)])])

def contentBlockStop : Str × Json :=
  ("content_block_stop", .obj [("type", .str "content_block_stop"), ("index", .int 0)])

def messageDelta (outputTokens : Json) : Str × Json :=
  ("message_delta", .obj [
    ("type", .str "message_delta"),
    ("delta", .obj [("stop_reason", .str "end_turn"), ("stop_sequence", .null)]),
    ("usage", .obj [("output_tokens", outputTokens)])])

def messageStop : Str × Json := ("message_stop", .obj [("type", .str "message_stop")])

def anthropicEvents (data : Fields) (content : Json) : List (Str × Json) :=
  messageStart data :: contentBlockStart ::
    (if content.truthy then [contentBlockDelta content] else []) ++ contentBlockStop ::
    match getKey (data.getD "usage" (.obj [])) "output_tokens" (.int 0) with
    | .ok outputTokens => [messageDelta outputTokens, messageStop]
    | .error _ => []

def googleContent (data : Fields) : Except PyError Json := do
  let candidates := (Fields.getD data "candidates" .null).orElse (.arr [])
  if candidates.truthy then
    let content ← getKey (← firstItem candidates) "content" (.obj [])
    let parts ← getKey content "parts" .null
    if parts.truthy then getKey (← firstItem parts) "text" (.str [])
    else return .str []
  else return .str []

def googleChunk (content : Json) : Json :=
  .obj [("candidates", .arr [.obj [
    ("content", .obj [("parts", .arr [.obj [("text", content)]])]),
    ("finishReason", .str "STOP")]])]

/-- What is sent in front of an exception; a body that is no dictionary raises at once. -/
def sendFields (send : Fields → Except PyError (List Str)) : Json → List Str
  | .obj data =>
    match send data with
    | .ok chunks => chunks
    | .error _ => []
  | _ => []

/-- `reconstruct_streaming_chunks`, at a time in seconds. -/
def reconstructStreamingChunks (json : JsonModule) (now : Int) (provider : Provider)
    (responseBody : Str) : List Str :=
  match json.loads responseBody with
  | none => [responseBody]
  | some data =>
    match provider with
    | .openai => sendFields (fun data => do
        return ((openaiChunks now data (← openaiContent data)).map fun chunk =>
          dataEvent (json.dumps chunk)) ++ [dataEvent "[DONE]"]) data
    | .anthropic => sendFields (fun data => do
        return (anthropicEvents data (← anthropicContent data)).map fun event =>
          namedEvent event.1 (json.dumps event.2)) data
    | .google => sendFields (fun data => do
        return [dataEvent (json.dumps (googleChunk (← googleContent data)))]) data
    | _ => [responseBody]

end BurnLens.Cache
