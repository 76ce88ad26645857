import BurnLens.Storage.RequestColumns

/-! # Cloud sync

`CloudSync`: a cycle fetches the oldest rows that are not synced, at most 500, sends them as one
batch, and marks them when the backend answers 200.
-/

namespace BurnLens.Cloud

open Library Cost Storage

def batchSize : Nat := 500

/-! ## The wire format -/

def cloudSyncedTags : List Str :=
  ["feature", "team", "customer", "key_label", "agent_id", "workflow_id", "session"]

def promptSegmentFields : List Str :=
  ["prompt_system_tokens", "prompt_tools_tokens", "prompt_rag_tokens", "prompt_history_tokens"]

/-- The name on the wire of a flattened tag. -/
def tagField (name : Str) : Str := "tag_" ++ name

def syncAllowedFields : List Str :=
  (["timestamp", "provider", "model", "input_tokens", "output_tokens", "reasoning_tokens",
   "cache_read_tokens", "cache_write_tokens", "cost_usd", "duration_ms", "status_code",
   "system_prompt_hash", "cache_hit", "cache_saved_usd", "tool_calls", "trace_id",
   "parent_span_id", "event_id", "request_id", "source", "pricing_version",
   "pricing_fingerprint", "pricing_class", "requested_model", "routed_model",
   "downgrade_reason"] : List Str) ++ promptSegmentFields ++ cloudSyncedTags.map tagField

/-- What the sync is configured with and calls: the JSON codec, the pricing data, the digest that
    is keyed with the ingest secret, and the client. -/
structure Services (Reply : Type) where
  pricing : PricingData
  texts : NumberText
  dumps : Json → Str
  loads : Str → Option Json
  hmac : Json → Str
  post : List Fields → Reply
  postOutcomes : List Fields → Reply

def sanitizeRecord (record : Fields) : Fields :=
  record.filter fun field => field.1 ∈ syncAllowedFields

def pseudonymizePromptHash (hmac : Json → Str) (value : Json) : Json :=
  if value.truthy then .str (hmac value) else .null

/-- The text in a TEXT column, the empty one for NULL. -/
def columnText (value : Json) : Str :=
  match value with
  | .str text => text
  | _ => []

/-- The dictionary that `_row_to_payload` makes. -/
def payload (row tags : Fields) (pricingClass : Json) : Fields :=
  ([("timestamp", row.getD "timestamp" .null),
    ("provider", row.getD "provider" .null),
    ("model", row.getD "model" .null),
    ("input_tokens", row.getD "input_tokens" (.int 0)),
    ("output_tokens", row.getD "output_tokens" (.int 0)),
    ("reasoning_tokens", row.getD "reasoning_tokens" (.int 0)),
    ("cache_read_tokens", row.getD "cache_read_tokens" (.int 0)),
    ("cache_write_tokens", row.getD "cache_write_tokens" (.int 0)),
    ("cost_usd", row.getD "cost_usd" (.float (.fin 0))),
    ("duration_ms", row.getD "duration_ms" (.int 0)),
    ("status_code", row.getD "status_code" (.int 200)),
    ("system_prompt_hash", row.getD "system_prompt_hash" .null),
    ("cache_hit", row.getD "cache_hit" (.int 0)),
    ("cache_saved_usd", row.getD "cache_saved_usd" (.float (.fin 0))),
    ("tool_calls", row.getD "tool_calls" (.int 0)),
    ("trace_id", row.getD "trace_id" .null),
    ("parent_span_id", row.getD "parent_span_id" .null),
    ("event_id", row.getD "event_id" .null),
    ("request_id", row.getD "request_id" .null),
    ("source", row.getD "source" .null),
    ("pricing_version", row.getD "pricing_version" .null),
    ("pricing_fingerprint", row.getD "pricing_fingerprint" .null),
    ("pricing_class", pricingClass),
    ("requested_model", row.getD "requested_model" .null),
    ("routed_model", row.getD "routed_model" .null),
    ("downgrade_reason", row.getD "downgrade_reason" .null)] : Fields) ++
    (cloudSyncedTags.map fun name => (tagField name, tags.getD name .null)) ++
    promptSegmentFields.map fun name => (name, (row.getD name .null).orElse (.int 0))

/-- `_row_to_payload`; `tags.get` raises where the column has JSON of another type. -/
def rowToPayload (pricing : PricingData) (loads : Str → Option Json) (today : Date)
    (row : Fields) : Except PyError Fields := do
  let tags := match row.getD "tags" (.str "{}") with
    | .str text => (loads text).getD (.obj [])
    | value => value
  let storedClass := row.getD "pricing_class" .null
  let pricingClass ←
    if storedClass.truthy then pure storedClass
    else
      let source := (row.getD "source" .null).orElse (.str "proxy")
      Json.str <$> pricing.pricingClassFor today (columnText (row.getD "provider" .null))
        ((row.getD "model" .null).orElse (.str [])) (columnText source)
  let tags ← tags.dict
  return payload row tags pricingClass

/-- The record as `push_batch` sends it. -/
def wireRecord (hmac : Json → Str) (payload : Fields) : Fields :=
  let sanitized := sanitizeRecord payload
  sanitized.set "system_prompt_hash"
    (pseudonymizePromptHash hmac (sanitized.getD "system_prompt_hash" .null))

def outcomeRowToPayload (loads : Str → Option Json) (row : Fields) : Fields :=
  let metadata := match (row.getD "metadata" .null).orElse (.str "{}") with
    | .str text => (loads text).getD (.obj [])
    | value => value
  [("outcome_id", row.getD "outcome_id" .null), ("workflow_id", row.getD "workflow_id" .null),
   ("status", row.getD "status" .null), ("event_time", row.getD "event_time" .null),
   ("business_value", row.getD "business_value" .null), ("currency", row.getD "currency" .null),
   ("source", (row.getD "source" .null).orElse (.str "cli")), ("metadata", metadata)]

/-! ## Pushing a batch -/

/-- An HTTP response: `body` is what `resp.json()` returns, where it does not raise, and
    `retryAfter` the header as an integer, where it is one. -/
structure Response where
  status : Nat
  body : Option Json := none
  retryAfter : Option Int := some 60

/-- What a call of the client ends with. -/
inductive Reply where
  | response (r : Response)
  | httpError
  -- an exception that is no `httpx.HTTPError`
  | raised

/-- The two tables and the fields of `CloudSync` that decide what a cycle does. -/
structure SyncState where
  requests : List Row
  outcomes : List Row := []
  backoffUntil : ℚ := 0
  running : Bool := true

/-- `push_batch` after the answer 200: the routing overrides are optional, and reading them off
    anything but an object raises. -/
def delivered (r : Response) : Bool := (r.body.getD (.obj [])).dict.isOk

def pushBatch (services : Services Reply) (now : ℚ) (s : SyncState) (records : List Fields) :
    SyncState × Bool :=
  if now < s.backoffUntil ∨ records.isEmpty then (s, false)
  else
    match services.post (records.map (wireRecord services.hmac)) with
    | .httpError | .raised => (s, false)
    | .response r =>
      if r.status = 200 then (s, delivered r)
      else if r.status = 401 then ({ s with running := false }, false)
      else if r.status = 429 then
        match r.retryAfter with
        | some retryAfter => ({ s with backoffUntil := now + retryAfter }, false)
        | none => (s, false)
      else (s, false)

/-- `push_outcomes`; `none` where it raises. -/
def pushOutcomes (services : Services Reply) (now : ℚ) (s : SyncState) (outcomes : List Fields) :
    Option Bool :=
  if now < s.backoffUntil ∨ outcomes.isEmpty then some false
  else
    match services.postOutcomes outcomes with
    | .raised => none
    | .httpError => some false
    | .response r => some (r.status = 200)

def fetchUnsynced (rows : List Row) (limit : Nat) : List Row :=
  (rows.filter fun row => !row.synced).take limit

def markSynced (rows : List Row) (ids : List Nat) : List Row :=
  rows.map fun row => if row.id ∈ ids then { row with synced := true } else row

/-- `_sync_outcomes_once`: the number of outcomes pushed; `none` where it raises. -/
def syncOutcomesOnce (services : Services Reply) (now : ℚ) (s : SyncState) :
    SyncState × Option Nat :=
  let rows := fetchUnsynced s.outcomes batchSize
  if rows.isEmpty then (s, some 0)
  else
    match pushOutcomes services now s
      (rows.map fun row => outcomeRowToPayload services.loads row.columns) with
    | none => (s, none)
    | some false => (s, some 0)
    | some true =>
      ({ s with outcomes := markSynced s.outcomes (rows.map Row.id) }, some rows.length)

/-- `_sync_once` from the fetch of the requests on. -/
def syncRequestsOnce (services : Services Reply) (today : Date) (now : ℚ) (s : SyncState) :
    SyncState × Except PyError Nat :=
  let rows := fetchUnsynced s.requests batchSize
  if rows.isEmpty then (s, .ok 0)
  else
    match rows.mapM fun row => rowToPayload services.pricing services.loads today row.columns with
    | .error error => (s, .error error)
    | .ok records =>
      match pushBatch services now s records with
      | (s, false) => (s, .ok 0)
      | (s, true) =>
        ({ s with requests := markSynced s.requests (rows.map Row.id) }, .ok rows.length)

/-- `_sync_once`: the number of requests pushed. -/
def syncOnce (services : Services Reply) (today : Date) (now : ℚ) (s : SyncState) :
    SyncState × Except PyError Nat :=
  -- whatever becomes of the outcomes
  syncRequestsOnce services today now (syncOutcomesOnce services now s).1

end BurnLens.Cloud
