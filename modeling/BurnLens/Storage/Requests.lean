import BurnLens.Cost.Calculator

/-! # The requests table

`insert_request` and the constraints of the table that it runs into: the unique index on
`event_id`, the partial one for scan rows, and the columns that must not be null.
`INSERT OR IGNORE` treats a violation of any of them alike, and reports that it stored no row.
The row ids here have no gaps; what is asked of one that is returned is whether it is 0.
-/

namespace BurnLens.Storage

open Library Cost

/-- `RequestRecord`, as far as `insert_request` computes with it; a value may have any type that
    JSON has. -/
structure RequestRecord where
  eventId : Option Str
  source : Option Str := some "proxy"
  requestId : Option Str := none
  provider : Str
  model : Json
  requestPath : Json := .str []
  inputTokens : Json := .int 0
  outputTokens : Json := .int 0
  reasoningTokens : Json := .int 0
  cacheReadTokens : Json := .int 0
  cacheWriteTokens : Json := .int 0
  costUsd : Json := .float (.fin 0)
  durationMs : Json := .float (.fin 0)
  statusCode : Json := .int 200
  promptSystemTokens : Json := .int 0
  promptUserTokens : Json := .int 0
  promptToolsTokens : Json := .int 0
  promptRagTokens : Json := .int 0
  promptHistoryTokens : Json := .int 0
  cacheHit : Json := .int 0
  cacheSavedUsd : Json := .float (.fin 0)
  toolCalls : Json := .int 0
  pricingClass : Option Str := none
  pricingFingerprint : Option Str := none
  -- the values for the columns that may be null
  nullable : List Json := []
  -- UTF-8 can encode the texts, which then have no lone surrogate
  encodable : Bool := true

namespace RequestRecord

/-- The values bound to the columns that are NOT NULL; the texts of the timestamp and of the tags
    always are one. -/
def required (record : RequestRecord) : List (Str × Json) :=
  [("provider", .str record.provider), ("model", record.model),
   ("request_path", record.requestPath), ("input_tokens", record.inputTokens),
   ("output_tokens", record.outputTokens), ("reasoning_tokens", record.reasoningTokens),
   ("cache_read_tokens", record.cacheReadTokens), ("cache_write_tokens", record.cacheWriteTokens),
   ("cost_usd", record.costUsd), ("duration_ms", record.durationMs),
   ("status_code", record.statusCode),
   ("source", (record.source.map Json.str).getD .null),
   ("prompt_system_tokens", record.promptSystemTokens),
   ("prompt_user_tokens", record.promptUserTokens),
   ("prompt_tools_tokens", record.promptToolsTokens),
   ("prompt_rag_tokens", record.promptRagTokens),
   ("prompt_history_tokens", record.promptHistoryTokens), ("cache_hit", record.cacheHit),
   ("cache_saved_usd", record.cacheSavedUsd), ("tool_calls", record.toolCalls)]

end RequestRecord

/-- SQLite takes texts, floats and integers of 64 bits. -/
def bindable : Json → Bool
  | .arr _ | .obj _ => false
  | .int n => -2 ^ 63 ≤ n ∧ n < 2 ^ 63
  | _ => true

def bindsNull : Json → Bool
  | .null | .float .nan => true
  | _ => false

/-- What the binding of a record raises: at an integer that is too large, at a list or an object, or
    at a text that cannot be encoded. -/
def RequestRecord.bindError (record : RequestRecord) : PyError :=
  match (record.required.map Prod.snd ++ record.nullable).find? fun value => !bindable value with
  | some (.int _) => .overflowError
  | some _ => .databaseError
  | none => .valueError

def RequestRecord.complete (record : RequestRecord) : Bool :=
  record.required.all fun column => !bindsNull column.2

/-! ## The table -/

structure StoredRow where
  id : Nat
  eventId : Str
  source : Option Str
  requestId : Option Str
deriving DecidableEq

/-- `source LIKE 'scan_%'`: in any case of the letters, and with any character at the underscore. -/
def isScanSource (source : Str) : Bool :=
  match source with
  | s :: c :: a :: n :: _ :: _ => [s, c, a, n].map Char.toLower == "scan".toList
  | _ => false

/-- The row of a scan that `idx_scan_dedup` refuses to store twice. -/
def sameScan (row : StoredRow) (source requestId : Option Str) : Bool :=
  row.source == source && row.requestId == requestId && (source.map isScanSource).getD false &&
    requestId.isSome

def alreadyStored (table : List StoredRow) (eventId : Str) (record : RequestRecord) : Bool :=
  table.any fun row => row.eventId == eventId || sameScan row record.source record.requestId

def RequestRecord.resolveEventId (record : RequestRecord) (fresh : Str) : Str :=
  match record.eventId with
  | none | some [] => fresh
  | some eventId => eventId

/-- `pricing_class_for` and `pricing_fingerprint_for`, which are computed where the record has
    none yet, and may raise. -/
def pricingColumns (tables : PricingTables) (today : Date) (record : RequestRecord) :
    Except PyError Unit := do
  let set (text : Option Str) : Bool := text ≠ none ∧ text ≠ some []
  if !set record.pricingClass then
    let _ ← isModelPriced tables today record.provider record.model
  if !set record.pricingFingerprint then
    match ← resolvePricing tables today record.provider record.model with
    | none => return ()
    | some pricing =>
      let _ ← applyTiered pricing record.inputTokens

/-- `insert_request`: the table and the row id, which is 0 for an ignored row.  Of the other ids only
    the order counts here: `AUTOINCREMENT` skips those of ignored rows as well. -/
def insertRequest (tables : PricingTables) (today : Date) (fresh : Str) (table : List StoredRow)
    (record : RequestRecord) : Except PyError (List StoredRow × Nat) := do
  pricingColumns tables today record
  if !(record.required.all fun column => bindable column.2) || !record.nullable.all bindable ||
      !record.encodable then
    throw record.bindError
  let eventId := record.resolveEventId fresh
  -- INSERT OR IGNORE
  if !record.complete || alreadyStored table eventId record then return (table, 0)
  else
    let id := table.length + 1
    return (table ++ [⟨id, eventId, record.source, record.requestId⟩], id)

variable {tables : PricingTables} {today : Date} {fresh : Str} {table table' : List StoredRow}
  {record : RequestRecord} {rowId : Nat}

theorem bindable_of_insertRequest
    (inserted : insertRequest tables today fresh table record = .ok (table', rowId)) :
    (∀ column ∈ record.required, bindable column.2 = true) ∧
      (∀ value ∈ record.nullable, bindable value = true) ∧ record.encodable = true := by
  simp only [insertRequest, bind_eq_ok] at inserted
  obtain ⟨⟨⟩, -, inserted⟩ := inserted
  split at inserted
  · cases inserted
  · next binds =>
    have all : ((∀ column ∈ record.required, bindable column.2 = true) ∧
        ∀ value ∈ record.nullable, bindable value = true) ∧ record.encodable = true := by
      simpa using binds
    exact ⟨all.1.1, all.1.2, all.2⟩

theorem insertRequest_ok
    (inserted : insertRequest tables today fresh table record = .ok (table', rowId)) :
    (table' = table ++ [⟨rowId, record.resolveEventId fresh, record.source, record.requestId⟩] ∧
        rowId = table.length + 1 ∧ alreadyStored table (record.resolveEventId fresh) record = false ∧
        record.complete = true) ∨
      (table' = table ∧ rowId = 0 ∧
        (alreadyStored table (record.resolveEventId fresh) record = true ∨
          record.complete = false)) := by
  simp only [insertRequest, bind_eq_ok] at inserted
  obtain ⟨⟨⟩, -, inserted⟩ := inserted
  split at inserted
  · cases inserted
  · split at inserted
    · next ignored =>
      cases inserted
      refine Or.inr ⟨rfl, rfl, ?_⟩
      simpa [or_comm] using ignored
    · next kept =>
      cases inserted
      refine Or.inl ⟨rfl, rfl, ?_⟩
      simpa [and_comm] using kept

end BurnLens.Storage
