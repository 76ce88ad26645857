import BurnLens.Library.FirstWins
import BurnLens.Library.Machine
import BurnLens.Scan.Sessions
import BurnLens.Storage.Requests

/-! # Scans

A scan reads the session files of a tool in order and hands a record of each billable entry to
`insert_request`, which ignores one whose source and request id it has.  It ends at the first
exception; what it has stored by then stays.
-/

namespace BurnLens.Scan

open Library Cost Storage

/-- What a scan computes with; no event id is drawn twice. -/
structure Importer where
  python : Python
  tables : PricingTables
  uuid7 : Nat → Str
  fresh : Function.Injective uuid7

def Billable.usage (b : Billable) : TokenUsage where
  inputTokens := .int b.inputTokens
  outputTokens := .int b.outputTokens
  reasoningTokens := .int b.reasoningTokens
  cacheReadTokens := .int b.cacheReadTokens
  cacheWriteTokens := .int b.cacheWriteTokens

structure ScanRecord where
  tool : Tool
  billable : Billable
  costUsd : Flt

namespace ScanRecord

variable (record : ScanRecord)

/-- The columns of `idx_scan_dedup`. -/
def key : Tool × Str := (record.tool, record.billable.requestId)

def request : RequestRecord where
  eventId := none
  source := some record.tool.source
  requestId := some record.billable.requestId
  provider := record.tool.provider
  model := record.billable.model
  requestPath := .str record.tool.requestPath
  inputTokens := .int record.billable.inputTokens
  outputTokens := .int record.billable.outputTokens
  reasoningTokens := .int record.billable.reasoningTokens
  cacheReadTokens := .int record.billable.cacheReadTokens
  cacheWriteTokens := .int record.billable.cacheWriteTokens
  costUsd := .float record.costUsd
  encodable := record.billable.encodable

end ScanRecord

structure ScanRow where
  stored : StoredRow
  record : ScanRecord

/-! ## The scan -/

structure ScanResult where
  sessionsFound : Nat := 0
  parsed : Nat := 0
  recordsInserted : Nat := 0
  recordsSkipped : Nat := 0
  totalCostUsd : Flt := .fin 0

/-- The state of a scan: the table, the event ids drawn, and `warned_models`. -/
structure ScanState where
  rows : List ScanRow
  drawn : Nat
  warned : List Str := []
  result : ScanResult := {}

namespace Importer

variable (w : Importer) (today : Date) (tool : Tool)

def calculate (b : Billable) : Except PyError Flt :=
  calculateCost w.tables today tool.provider b.model b.usage

/-- The cost of a record.  Gemini's reader takes a model that has come to 0 for one without a
    price, and asks no more; of the models, only texts have a price. -/
def price (warned : List Str) (b : Billable) : Except PyError (Flt × List Str) :=
  match tool, b.model with
  | .gemini, .str model => do
    if model ∈ warned then return (.fin 0, warned)
    let cost ← w.calculate today tool b
    return (cost, if cost = .fin 0 then model :: warned else warned)
  | _, _ => do
    let cost ← w.calculate today tool b
    return (cost, warned)

def importBillable (s : ScanState) (b : Billable) : ScanState × Option PyError :=
  match w.price today tool s.warned b with
  | .error error => (s, some error)
  | .ok (cost, warned) =>
    let record : ScanRecord := ⟨tool, b, cost⟩
    let result :=
      { s.result with
        parsed := s.result.parsed + 1, totalCostUsd := s.result.totalCostUsd.add cost }
    let eventId := w.uuid7 s.drawn
    match insertRequest w.tables today eventId (s.rows.map ScanRow.stored) record.request with
    | .error error => ({ s with drawn := s.drawn + 1, warned, result }, some error)
    | .ok (_, 0) =>
      ({ s with
        drawn := s.drawn + 1, warned
        result := { result with recordsSkipped := result.recordsSkipped + 1 } }, none)
    | .ok (_, id) =>
      let row := ⟨⟨id, eventId, record.request.source, record.request.requestId⟩, record⟩
      ({ rows := s.rows ++ [row]
         drawn := s.drawn + 1, warned
         result := { result with recordsInserted := result.recordsInserted + 1 } }, none)

def importItems (s : ScanState) : List (Except PyError Billable) → ScanState × Option PyError
  | [] => (s, none)
  | .error error :: _ => (s, some error)
  | .ok b :: items =>
    match w.importBillable today tool s b with
    | (s', none) => importItems s' items
    | (s', some error) => (s', some error)

def items (files : List SessionFile) : List (Except PyError Billable) :=
  files.flatMap (tool.items w.python)

/-- `scan_claude_code`, `scan_codex` and `scan_gemini_cli`. -/
def scan (files : List SessionFile) (rows : List ScanRow) (drawn : Nat) :
    ScanState × Option PyError :=
  w.importItems today tool { rows, drawn, result := { sessionsFound := files.length } }
    (w.items tool files)

end Importer

structure ImportState where
  files : Tool → List SessionFile
  rows : List ScanRow := []
  drawn : Nat := 0

inductive ImportStep where
  -- the rest of a line
  | append (tool : Tool) (index : Nat) (line : Str)
  -- some of a line
  | tear (tool : Tool) (index : Nat) (text : Str)
  | scan (tool : Tool) (today : Date)

namespace ImportState

variable (s : ImportState)

def setFile (tool : Tool) (index : Nat) (file : SessionFile) : ImportState :=
  { s with files := fun other => if other = tool then (s.files tool).set index file else s.files other }

/-- What the file is where it grows by the text; a document is complete after its first line. -/
def growing (tool : Tool) (index : Nat) (text : Str) : Option SessionFile :=
  ((s.files tool)[index]?).filter fun file =>
    file.torn.isPrefixOf text && (!file.isJson || file.lines.isEmpty)

end ImportState

def imports (w : Importer) : Machine ImportState ImportStep where
  step s
    | .append tool index line =>
      (s.growing tool index line).map fun file => s.setFile tool index (file.appendLine line)
    | .tear tool index text =>
      (s.growing tool index text).map fun file => s.setFile tool index { file with torn := text }
    | .scan tool today =>
      let scanned := (w.scan today tool (s.files tool) s.rows s.drawn).1
      some { s with rows := scanned.rows, drawn := scanned.drawn }

/-- The files are empty, and nothing is stored. -/
structure ImportState.Fresh (s : ImportState) : Prop where
  empty : ∀ tool, ∀ file ∈ s.files tool, file.lines = [] ∧ file.torn = []
  rows : s.rows = []

end BurnLens.Scan
