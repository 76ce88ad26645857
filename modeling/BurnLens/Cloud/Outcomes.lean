import BurnLens.Cloud.Sync
import BurnLens.Library.LastWrite
import BurnLens.Library.Rounding

/-! # Outcomes

The local table of outcomes with its three writers, the record of an outcome on the wire, and
the backend's `POST /v1/outcomes`.  A `metadata` column holds the dictionary that its text
decodes to.
-/

namespace BurnLens.Cloud

open Library Storage

inductive OutcomeStatus where
  | accepted
  | rejected
  | failed
deriving DecidableEq

def OutcomeStatus.text : OutcomeStatus → Str
  | .accepted => "accepted"
  | .rejected => "rejected"
  | .failed => "failed"

/-! ## The local table -/

/-- `Outcome`; the time as `isoformat` writes it. -/
structure Outcome where
  outcomeId : Str
  workflowId : Str
  status : OutcomeStatus
  outcomeType : Str := "unspecified"
  eventTime : Str
  businessValue : Option ℚ := none
  currency : Option Str := none
  source : Str := "cli"
  metadata : Fields := []

/-- A row of the local table `outcomes`. -/
structure OutcomeRow where
  id : Nat
  outcomeId : Str
  workflowId : Str
  status : OutcomeStatus
  businessValue : Option ℚ
  currency : Option Str
  eventTime : Str
  source : Str
  metadata : Fields
  -- `synced_at` is set
  synced : Bool := false

def OutcomeRow.outcomeType (row : OutcomeRow) : Json := row.metadata.getD "outcome_type" .null

/-- `metadata.setdefault("outcome_type", outcome.outcome_type)`. -/
def Outcome.typedMetadata (outcome : Outcome) : Fields :=
  if outcome.metadata.has "outcome_type" then outcome.metadata
  else outcome.metadata.set "outcome_type" (.str outcome.outcomeType)

def Outcome.row (outcome : Outcome) (id : Nat) : OutcomeRow where
  id := id
  outcomeId := outcome.outcomeId
  workflowId := outcome.workflowId
  status := outcome.status
  businessValue := outcome.businessValue
  currency := outcome.currency
  eventTime := outcome.eventTime
  source := outcome.source
  metadata := outcome.typedMetadata

def findOutcome (rows : List OutcomeRow) (outcomeId : Str) : Option OutcomeRow :=
  rows.find? fun row => row.outcomeId = outcomeId

/-- The insert of a new row; no row is ever deleted. -/
def appendOutcome (rows : List OutcomeRow) (outcome : Outcome) : List OutcomeRow :=
  rows ++ [outcome.row (rows.length + 1)]

/-- `insert_outcome`: the id of the new row, or 0. -/
def insertOutcome (rows : List OutcomeRow) (outcome : Outcome) : List OutcomeRow × Nat :=
  match findOutcome rows outcome.outcomeId with
  | none => (appendOutcome rows outcome, rows.length + 1)
  | some _ => (rows, 0)

inductive Reconciled where
  | inserted
  | duplicate
  | corrected
deriving DecidableEq

def updateOutcome (rows : List OutcomeRow) (outcomeId : Str) (change : OutcomeRow → OutcomeRow) :
    List OutcomeRow :=
  rows.map fun row => if row.outcomeId = outcomeId then change row else row

def reconcileDerivedOutcome (rows : List OutcomeRow) (outcome : Outcome) :
    List OutcomeRow × Reconciled :=
  match findOutcome rows outcome.outcomeId with
  | none => (appendOutcome rows outcome, .inserted)
  | some current =>
    let changed := current.status ≠ outcome.status ∨ current.eventTime ≠ outcome.eventTime
    if current.source ≠ "derived" ∨ ¬ changed then (rows, .duplicate)
    else
      (updateOutcome rows outcome.outcomeId fun row =>
        { outcome.row row.id with synced := row.synced }, .corrected)

/-- `event_time or current[1]`. -/
def correctedTime (current : Str) : Option Str → Str
  | some time => if time.isEmpty then current else time
  | none => current

def correctOutcome (rows : List OutcomeRow) (outcomeId : Str) (status : OutcomeStatus)
    (eventTime : Option Str) : List OutcomeRow × Bool :=
  match findOutcome rows outcomeId with
  | none => (rows, false)
  | some current =>
    let newEventTime := correctedTime current.eventTime eventTime
    (updateOutcome rows outcomeId fun row => { row with status, eventTime := newEventTime }, true)

def markOutcomesSynced (rows : List OutcomeRow) (ids : List Nat) : List OutcomeRow :=
  rows.map fun row => if row.id ∈ ids then { row with synced := true } else row

def jsonText : Option Str → Json
  | none => .null
  | some text => .str text

def jsonNumber : Option ℚ → Json
  | none => .null
  | some x => .float (.fin x)

/-- The columns as `SELECT *` returns them. -/
def OutcomeRow.columns (dumps : Json → Str) (row : OutcomeRow) : Fields :=
  [("id", .int row.id), ("outcome_id", .str row.outcomeId), ("workflow_id", .str row.workflowId),
   ("status", .str row.status.text), ("business_value", jsonNumber row.businessValue),
   ("currency", jsonText row.currency), ("event_time", .str row.eventTime),
   ("source", .str row.source), ("metadata", .str (dumps (.obj row.metadata)))]

/-- What `_outcome_row_to_payload` makes of a row. -/
def OutcomeRow.payload (row : OutcomeRow) : Fields :=
  [("outcome_id", .str row.outcomeId), ("workflow_id", .str row.workflowId),
   ("status", .str row.status.text), ("event_time", .str row.eventTime),
   ("business_value", jsonNumber row.businessValue), ("currency", jsonText row.currency),
   ("source", (Json.str row.source).orElse (.str "cli")), ("metadata", .obj row.metadata)]

theorem outcomeRowToPayload_columns {dumps : Json → Str} {loads : Str → Option Json}
    {row : OutcomeRow} (written : dumps (.obj row.metadata) ≠ [])
    (read : loads (dumps (.obj row.metadata)) = some (.obj row.metadata)) :
    outcomeRowToPayload loads (row.columns dumps) = row.payload := by
  have text : (Json.str (dumps (.obj row.metadata))).orElse (.str "{}") =
      .str (dumps (.obj row.metadata)) := by
    simp [Json.orElse, Json.truthy, written]
  have metadata : (row.columns dumps).getD "metadata" .null =
      .str (dumps (.obj row.metadata)) := rfl
  simp only [outcomeRowToPayload, metadata, text, read, Option.getD_some]
  rfl

/-! ## The backend -/

structure OutcomeRecord where
  outcomeId : Str
  workflowId : Str
  status : OutcomeStatus
  outcomeType : Str
  eventTime : Int
  businessValue : Option ℚ
  currency : Option Str
  source : Str
  metadata : Fields

/-- A row of the backend's `outcomes`. -/
structure CloudOutcome where
  outcomeId : Str
  workflowId : Str
  status : OutcomeStatus
  businessValue : Option ℚ
  currency : Option Str
  eventTime : Int
  source : Str
  metadata : Fields

def boundedText (low high : Nat) : Json → Option Str
  | .str text => if low ≤ text.length ∧ text.length ≤ high then some text else none
  | _ => none

def parseStatus : Json → Option OutcomeStatus
  | .str text =>
    if text = "accepted" then some .accepted
    else if text = "rejected" then some .rejected
    else if text = "failed" then some .failed
    else none
  | _ => none

/-- `Optional[float]`. -/
def optionalNumber : Json → Option (Option ℚ)
  | .null => some none
  | .float (.fin x) => some (some x)
  | .int n => some (some n)
  | _ => none

def optionalTextField (high : Nat) : Json → Option (Option Str)
  | .null => some none
  | value => (boundedText 0 high value).map some

def fieldOr {α : Type} (payload : Fields) (key : Str) (default : α) (parse : Json → Option α) :
    Option α :=
  match payload.get? key with
  | none => some default
  | some value => parse value

def parseOutcome (parseTime : Json → Option Int) (payload : Fields) : Option OutcomeRecord := do
  let outcomeId ← boundedText 1 200 (← payload.get? "outcome_id")
  let workflowId ← boundedText 1 200 (← payload.get? "workflow_id")
  let status ← parseStatus (← payload.get? "status")
  let outcomeType ← fieldOr payload "outcome_type" ("unspecified" : Str) (boundedText 1 64)
  let eventTime ← parseTime (← payload.get? "event_time")
  let businessValue ← fieldOr payload "business_value" none optionalNumber
  let currency ← fieldOr payload "currency" none (optionalTextField 8)
  let source ← fieldOr payload "source" ("api" : Str) (boundedText 0 32)
  let metadata ← fieldOr payload "metadata" [] fun value => value.dict.toOption
  return { outcomeId, workflowId, status, outcomeType, eventTime, businessValue, currency, source,
           metadata }

theorem boundedText_str {low high : Nat} {text result : Str}
    (parsed : boundedText low high (.str text) = some result) : result = text := by
  rw [boundedText] at parsed
  split at parsed
  · exact (Option.some.inj parsed).symm
  · cases parsed

theorem parseStatus_text (status : OutcomeStatus) :
    parseStatus (.str status.text) = some status := by
  cases status <;> decide

theorem optionalTextField_jsonText {high : Nat} {currency result : Option Str}
    (parsed : optionalTextField high (jsonText currency) = some result) : result = currency := by
  cases currency with
  | none => exact (Option.some.inj parsed).symm
  | some text =>
    obtain ⟨text', bounded, rfl⟩ := Option.map_eq_some_iff.mp parsed
    rw [boundedText_str bounded]

theorem optionalNumber_jsonNumber (value : Option ℚ) :
    optionalNumber (jsonNumber value) = some value := by
  cases value <;> rfl

/-- What the backend reads off the record of a row: the type of the outcome is the default. -/
structure OutcomeRecord.Reads (parseTime : Json → Option Int) (row : OutcomeRow)
    (o : OutcomeRecord) : Prop where
  outcomeId : o.outcomeId = row.outcomeId
  workflowId : o.workflowId = row.workflowId
  status : o.status = row.status
  outcomeType : o.outcomeType = "unspecified"
  eventTime : parseTime (.str row.eventTime) = some o.eventTime
  businessValue : o.businessValue = row.businessValue
  currency : o.currency = row.currency
  metadata : o.metadata = row.metadata

theorem parseOutcome_payload {parseTime : Json → Option Int} {row : OutcomeRow}
    {o : OutcomeRecord} (parsed : parseOutcome parseTime row.payload = some o) :
    o.Reads parseTime row := by
  have fields : parseOutcome parseTime row.payload = (do
      let outcomeId ← boundedText 1 200 (.str row.outcomeId)
      let workflowId ← boundedText 1 200 (.str row.workflowId)
      let status ← parseStatus (.str row.status.text)
      let eventTime ← parseTime (.str row.eventTime)
      let businessValue ← optionalNumber (jsonNumber row.businessValue)
      let currency ← optionalTextField 8 (jsonText row.currency)
      let source ← boundedText 0 32 ((Json.str row.source).orElse (.str "cli"))
      return { outcomeId, workflowId, status, outcomeType := "unspecified", eventTime, businessValue,
               currency, source, metadata := row.metadata }) := rfl
  rw [fields, parseStatus_text, optionalNumber_jsonNumber] at parsed
  simp only [Option.bind_eq_bind, Option.bind_some, Option.bind_eq_some_iff, Option.pure_def,
    Option.some.injEq] at parsed
  obtain ⟨outcomeId, its, workflowId, workflow, eventTime, time, currency, currency', source, _,
    rfl⟩ := parsed
  exact ⟨boundedText_str its, boundedText_str workflow, rfl, rfl, time, rfl,
    optionalTextField_jsonText currency', rfl⟩

/-- What NUMERIC(18, 6) makes of a value; an overflow raises. -/
def numericColumn : Option ℚ → Option (Option ℚ)
  | none => some none
  | some x => if |numeric 6 x| < 10 ^ 12 then some (some (numeric 6 x)) else none

def OutcomeRecord.entry (o : OutcomeRecord) (businessValue : Option ℚ) : CloudOutcome where
  outcomeId := o.outcomeId
  workflowId := o.workflowId
  status := o.status
  businessValue := businessValue
  currency := o.currency
  eventTime := o.eventTime
  source := o.source
  metadata := o.metadata.set "outcome_type" (.str o.outcomeType)

/-- `INSERT INTO outcomes ... ON CONFLICT DO NOTHING`; `none` where it raises. -/
def insertCloud (cloud : List CloudOutcome) (o : OutcomeRecord) : Option (List CloudOutcome) :=
  match numericColumn o.businessValue with
  | none => none
  | some businessValue =>
    if cloud.any fun c => c.outcomeId = o.outcomeId then some cloud
    else some (cloud ++ [o.entry businessValue])

/-- The rows that `ingest_outcomes` inserts of a valid batch, one by one. -/
def collapse (outcomes : List OutcomeRecord) : List OutcomeRecord :=
  firsts OutcomeRecord.outcomeId (fun _ => false) outcomes

end BurnLens.Cloud
