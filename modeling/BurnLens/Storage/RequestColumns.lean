import BurnLens.Library.Table
import BurnLens.Storage.Requests
import BurnLens.Storage.Timestamps

/-! # The columns of a stored request

`insert_request` with the values that it writes: what of a record the readers of the table find
in the columns, after the pricing of the record is filled in and the columns have converted what
they are bound to.
-/

namespace BurnLens.Storage

open Library Cost

/-- A `datetime`: the scan importers keep the one of the log file, with or without an offset. -/
inductive Timestamp where
  | aware (t : DateTime)
  | naive (t : DateTime)

def Timestamp.isoformat : Timestamp → Str
  | aware t => t.isoformat
  | naive t => t.isoformat.take (t.isoformat.length - (formatOffset t.utcoffset).length)

/-- `RequestRecord`, with the fields that the cloud sync reads back. -/
structure LedgerRecord extends RequestRecord where
  timestamp : Timestamp
  tags : Json := .obj []
  systemPromptHash : Option Str := none
  traceId : Option Str := none
  parentSpanId : Option Str := none
  requestedModel : Json := .null
  routedModel : Option Str := none
  downgradeReason : Option Str := none
  pricingVersion : Option Str := none

def optionalText (text : Option Str) : Json := (text.map Json.str).getD .null

/-! ## Pricing -/

/-- The bundled pricing data: the tables, their versions by pricing key, and the digest of what a
    request is priced with. -/
structure PricingData where
  tables : PricingTables
  updated : Str → Option Str
  digest : Str → Json → Option Str → Rates → Str
  versionLength : ∀ key version, updated key = some version → version.length ≤ 128
  digestLength : ∀ provider model version rates, (digest provider model version rates).length = 64

def noPricing : PricingData where
  tables _ := []
  updated _ := none
  digest _ _ _ _ := List.replicate 64 '0'
  versionLength _ _ known := by cases known
  digestLength _ _ _ _ := List.length_replicate

namespace PricingData

variable (pricing : PricingData)

def getPricingVersion (provider : Str) : Option Str := pricing.updated (resolvePricingKey provider)

def pricingClassFor (today : Date) (provider : Str) (model : Json) (source : Str) :
    Except PyError Str := do
  if !(← isModelPriced pricing.tables today provider model) then return "unpriced"
  else if startsWith "scan_" source then return "estimated"
  else return "calculated"

def pricingFingerprintFor (today : Date) (provider : Str) (model inputTokens : Json)
    (pricingVersion : Option Str) : Except PyError (Option Str) := do
  match ← resolvePricing pricing.tables today provider model with
  | none => return none
  | some row =>
    let effective ← applyTiered row inputTokens
    let version := match pricingVersion with
      | none | some [] => pricing.getPricingVersion provider
      | version => version
    return some (pricing.digest provider model version effective)

end PricingData

namespace LedgerRecord

variable (pricing : PricingData) (today : Date) (record : LedgerRecord)

/-- `record.pricing_class or pricing_class_for(...)`. -/
def pricingClassColumn : Except PyError Str :=
  match record.pricingClass with
  | none | some [] =>
    pricing.pricingClassFor today record.provider record.model (record.source.getD [])
  | some pricingClass => .ok pricingClass

/-- `record.pricing_fingerprint or pricing_fingerprint_for(...)`. -/
def pricingFingerprintColumn : Except PyError (Option Str) :=
  match record.pricingFingerprint with
  | none | some [] =>
    pricing.pricingFingerprintFor today record.provider record.model record.inputTokens
      record.pricingVersion
  | fingerprint => .ok fingerprint

def pricingVersionColumn (fingerprint : Option Str) : Option Str :=
  match record.pricingVersion, fingerprint with
  | none, some _ => pricing.getPricingVersion record.provider
  | version, _ => version

/-- `record.tags or {}`, of which the insert gets the tags with a column of their own. -/
def boundTags : Except PyError Fields := if record.tags.truthy then record.tags.dict else .ok []

/-- The record that is bound: with all its values for the columns that may be null. -/
def bound (tags : Fields) : RequestRecord :=
  { record.toRequestRecord with
    nullable := record.nullable ++ record.requestedModel ::
      [record.systemPromptHash, record.traceId, record.parentSpanId, record.routedModel,
        record.downgradeReason, record.pricingVersion].map optionalText ++
      ["repo", "dev", "pr", "branch", "key_label"].map fun name : String =>
        (tags.getD name .null).orElse .null }

end LedgerRecord

/-! ## Rows -/

/-- A row: its columns as they are read back, and whether `synced_at` is set. -/
structure Row where
  id : Nat
  columns : Fields
  synced : Bool := false

def textColumn (columns : Fields) (name : Str) : Option Str :=
  match columns.getD name .null with
  | .str text => some text
  | _ => none

def Row.stored (row : Row) : StoredRow where
  id := row.id
  eventId := (textColumn row.columns "event_id").getD []
  source := textColumn row.columns "source"
  requestId := textColumn row.columns "request_id"

/-- The columns of the new row that the cloud sync reads. -/
def LedgerRecord.row (record : LedgerRecord) (texts : NumberText) (dumps : Json → Str)
    (eventId pricingClass : Str) (pricingVersion fingerprint : Option Str) : Fields :=
  [("timestamp", .str record.timestamp.isoformat),
   ("provider", .str record.provider),
   ("model", texts.textAffinity record.model),
   ("requested_model", texts.textAffinity record.requestedModel),
   ("input_tokens", texts.integerAffinity record.inputTokens),
   ("output_tokens", texts.integerAffinity record.outputTokens),
   ("reasoning_tokens", texts.integerAffinity record.reasoningTokens),
   ("cache_read_tokens", texts.integerAffinity record.cacheReadTokens),
   ("cache_write_tokens", texts.integerAffinity record.cacheWriteTokens),
   ("cost_usd", texts.realAffinity record.costUsd),
   ("duration_ms", texts.integerAffinity record.durationMs),
   ("status_code", texts.integerAffinity record.statusCode),
   ("tags", .str (dumps record.tags)),
   ("system_prompt_hash", optionalText record.systemPromptHash),
   ("source", optionalText record.source),
   ("request_id", optionalText record.requestId),
   ("routed_model", optionalText record.routedModel),
   ("downgrade_reason", optionalText record.downgradeReason),
   ("event_id", .str eventId),
   ("trace_id", optionalText record.traceId),
   ("parent_span_id", optionalText record.parentSpanId),
   ("pricing_version", optionalText pricingVersion),
   ("pricing_class", .str pricingClass),
   ("pricing_fingerprint", optionalText fingerprint),
   ("prompt_system_tokens", texts.integerAffinity record.promptSystemTokens),
   ("prompt_tools_tokens", texts.integerAffinity record.promptToolsTokens),
   ("prompt_rag_tokens", texts.integerAffinity record.promptRagTokens),
   ("prompt_history_tokens", texts.integerAffinity record.promptHistoryTokens),
   ("cache_hit", texts.integerAffinity record.cacheHit),
   ("cache_saved_usd", texts.realAffinity record.cacheSavedUsd),
   ("tool_calls", texts.integerAffinity record.toolCalls)]

def LedgerRecord.columns (pricing : PricingData) (texts : NumberText) (dumps : Json → Str)
    (today : Date) (record : LedgerRecord) (eventId : Str) : Except PyError Fields := do
  let pricingClass ← record.pricingClassColumn pricing today
  let fingerprint ← record.pricingFingerprintColumn pricing today
  let pricingVersion := record.pricingVersionColumn pricing fingerprint
  return record.row texts dumps eventId pricingClass pricingVersion fingerprint

/-- `insert_request`, on whole rows. -/
def insertRow (pricing : PricingData) (texts : NumberText) (dumps : Json → Str) (today : Date)
    (fresh : Str) (rows : List Row) (record : LedgerRecord) : Except PyError (List Row) := do
  let tags ← record.boundTags
  let columns ← record.columns pricing texts dumps today (record.resolveEventId fresh)
  let (_, rowId) ← insertRequest pricing.tables today fresh (rows.map Row.stored)
    (record.bound tags)
  if rowId = 0 then return rows else return rows ++ [{ id := rowId, columns }]

variable {pricing : PricingData} {texts : NumberText} {dumps : Json → Str} {today : Date}
  {fresh : Str} {rows rows' : List Row} {record : LedgerRecord}

/-- What a stored record has got past: the binding of its values, and NOT NULL. -/
structure LedgerRecord.Kept (record : LedgerRecord) : Prop where
  bindable : ∀ column ∈ record.required, bindable column.2 = true
  complete : ∀ column ∈ record.required, bindsNull column.2 = false
  requestedModel : Storage.bindable record.requestedModel = true

/-- An insert appends the row of the record, or leaves the table. -/
theorem insertRow_ok (inserted : insertRow pricing texts dumps today fresh rows record = .ok rows') :
    (rows' = rows ∧ (alreadyStored (rows.map Row.stored) (record.resolveEventId fresh)
        record.toRequestRecord = true ∨ record.complete = false)) ∨
      record.Kept ∧ alreadyStored (rows.map Row.stored) (record.resolveEventId fresh)
          record.toRequestRecord = false ∧
        ∃ columns, record.columns pricing texts dumps today (record.resolveEventId fresh) =
            .ok columns ∧ rows' = rows ++ [{ id := rows.length + 1, columns }] := by
  simp only [insertRow, bind_eq_ok] at inserted
  obtain ⟨tags, -, columns, its, ⟨table, rowId⟩, inserts, inserted⟩ := inserted
  obtain ⟨required, nullable, -⟩ := bindable_of_insertRequest inserts
  obtain ⟨-, rfl, new, complete⟩ | ⟨-, rfl, ignored⟩ := insertRequest_ok inserts
  · rw [if_neg (Nat.succ_ne_zero _), List.length_map] at inserted
    cases inserted
    refine Or.inr ⟨⟨required, ?_, ?_⟩, new, columns, its, rfl⟩
    · exact fun column member => by simpa using List.all_eq_true.mp complete column member
    · exact nullable _ (by simp [LedgerRecord.bound])
  · cases inserted
    exact Or.inl ⟨rfl, ignored⟩

end BurnLens.Storage
