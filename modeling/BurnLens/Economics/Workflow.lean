import BurnLens.Cloud.Outcomes
import BurnLens.Library.GroupBy
import BurnLens.Storage.IsoFormat
import Mathlib.Data.List.Sort
import Mathlib.Data.Multiset.Defs

/-! # Workflow economics

What the workflows spent on each type of outcome: `get_workflow_economics` over the local
database, and the summary of the backend.  Both charge a request to the first outcome of its
workflow at or after it, inside the window; the local query compares times as the texts of its
columns and by `julianday`, the other as instants.
-/

namespace BurnLens.Economics

open Library Storage Cloud

/-! ## Rows -/

/-- A request; its workflow is the one in its tags. -/
structure Spend (T : Type) where
  ts : T
  costUsd : ℚ
  workflowId : Option Str

/-- What a JSON value in a metadata column is to a query. -/
inductive Scalar where
  | text (s : Str)
  | integer (n : Int)
  | real (x : Flt)
deriving DecidableEq

structure Entry (T : Type) where
  workflowId : Str
  status : OutcomeStatus
  -- `NULLIF(type, '')`
  outcomeType : Option Scalar
  eventTime : T
  businessValue : Option ℚ
  currency : Option Str

def nullIfEmpty (value : Option Scalar) : Option Scalar :=
  if value = some (.text []) then none else value

/-- `json_extract`; `minify` is the text of an array or an object. -/
def jsonExtract (minify : Json → Str) : Json → Option Scalar
  | .null => none
  | .bool b => some (.integer b.toNat)
  | .int n => some (.integer n)
  | .float x => some (.real x)
  | .str s => some (.text s)
  | value => some (.text (minify value))

/-- `->>`; `jsonText` is the text of a value that is not one. -/
def arrowText (jsonText : Json → Str) : Json → Option Scalar
  | .null => none
  | .str s => some (.text s)
  | value => some (.text (jsonText value))

/-- A row of the local table; every text in its column is one that `isoformat` wrote. -/
def localEntry (minify : Json → Str) (row : OutcomeRow) : Option (Entry DateTime) :=
  (readIsoformat row.eventTime).map fun eventTime =>
    { workflowId := row.workflowId, status := row.status
      outcomeType := nullIfEmpty (jsonExtract minify row.outcomeType)
      eventTime, businessValue := row.businessValue, currency := row.currency }

def cloudEntry (jsonText : Json → Str) (row : CloudOutcome) : Entry Int where
  workflowId := row.workflowId
  status := row.status
  outcomeType := nullIfEmpty (arrowText jsonText (row.metadata.getD "outcome_type" .null))
  eventTime := row.eventTime
  businessValue := row.businessValue
  currency := row.currency

/-! ## The two databases -/

/-- `ORDER BY event_time ASC LIMIT 1`: a first row; where several are, the database does not say
    which. -/
structure First {T : Type} (le : T → T → Bool) where
  pick : List (Entry T) → Option (Entry T)
  least : ∀ {entries entry}, pick entries = some entry →
    entry ∈ entries ∧ ∀ other ∈ entries, le entry.eventTime other.eventTime = true
  found : ∀ {entries}, pick entries = none → entries = []

/-- What the text of a query leaves to the database, and where the two queries differ. -/
structure Dialect (T : Type) where
  -- `event_time <= event_time`
  le : T → T → Bool
  -- `time >= since`
  counts : T → Bool
  -- the outcome at the first time may claim the request at the second
  claims : T → T → Bool
  firstForType : First le
  firstForStatus : First le
  -- the distinct currencies, as the list that the caller makes of them
  currencies : List Str → List Str

def textLe (a b : DateTime) : Bool := !decide (b.isoformat < a.isoformat)

/-- The milliseconds that `julianday` makes of an instant: some versions cut it, others round. -/
structure JulianClock where
  millis : Int → Int
  near : ∀ instant, |instant - 1000 * millis instant| < 1000

theorem near_cut (instant : Int) : |instant - 1000 * (instant / 1000)| < 1000 := by
  rw [abs_lt]
  omega

def cuttingClock : JulianClock where
  millis instant := instant / 1000
  near := near_cut

/-- `julianday`, in milliseconds; a time zone is hours and minutes. -/
def JulianClock.julianMillis (clock : JulianClock) (t : DateTime) : Option Int :=
  if t.utcoffset % 60000000 = 0 then some (clock.millis t.instant) else none

/-- `(julianday(o.event_time) - julianday(req.ts)) * 86400.0 < ?`. -/
def JulianClock.julianWithin (clock : JulianClock) (windowSeconds : Nat) (eventTime ts : DateTime) :
    Bool :=
  match clock.julianMillis eventTime, clock.julianMillis ts with
  | some event, some request => event - request < windowSeconds * 1000
  | _, _ => false

/-- The local query: `GROUP_CONCAT` joins the currencies with commas, and the caller splits them. -/
def sqlite (clock : JulianClock) (firstForType firstForStatus : First textLe) (since : DateTime)
    (windowSeconds : Nat) : Dialect DateTime where
  le := textLe
  counts := textLe since
  claims eventTime ts := textLe ts eventTime && clock.julianWithin windowSeconds eventTime ts
  firstForType := firstForType
  firstForStatus := firstForStatus
  currencies distinct := distinct.flatMap fun currency => currency.splitOn ','

def instantLe (a b : Int) : Bool := a ≤ b

/-- The query of the backend, whose times are instants in microseconds. -/
def postgres (firstForType firstForStatus : First instantLe) (since : DateTime)
    (windowSeconds : Nat) : Dialect Int where
  le := instantLe
  counts := instantLe since.instant
  claims eventTime ts := ts ≤ eventTime && eventTime < ts + windowSeconds * 1000000
  firstForType := firstForType
  firstForStatus := firstForStatus
  currencies distinct := distinct

/-! ## The query -/

abbrev Key := Str × Scalar

/-- A row of `alloc`. -/
structure Allocation where
  workflowId : Str
  costUsd : ℚ
  outcomeType : Scalar
  status : Option OutcomeStatus

/-- A row that `counts` groups. -/
structure Counted where
  workflowId : Str
  outcomeType : Scalar
  status : OutcomeStatus
  businessValue : Option ℚ
  -- `NULLIF(currency, '')`
  currency : Option Str

def Allocation.key (a : Allocation) : Key := (a.workflowId, a.outcomeType)

def Counted.key (c : Counted) : Key := (c.workflowId, c.outcomeType)

def Entry.counted {T : Type} (entry : Entry T) : Counted where
  workflowId := entry.workflowId
  outcomeType := entry.outcomeType.getD (.text "unspecified")
  status := entry.status
  businessValue := entry.businessValue
  currency := if entry.currency = some [] then none else entry.currency

namespace Dialect

variable {T : Type} (d : Dialect T)

/-- The outcomes that a request of the workflow may be charged to. -/
def claimants (entries : List (Entry T)) (workflowId : Str) (ts : T) : List (Entry T) :=
  entries.filter fun entry => entry.workflowId = workflowId && d.claims entry.eventTime ts

def allocation (entries : List (Entry T)) (request : Spend T) (workflowId : Str) : Allocation :=
  let claimants := d.claimants entries workflowId request.ts
  { workflowId, costUsd := request.costUsd
    outcomeType :=
      ((d.firstForType.pick claimants).bind Entry.outcomeType).getD (.text "unattributed")
    status := (d.firstForStatus.pick claimants).map Entry.status }

def allocate (entries : List (Entry T)) (request : Spend T) : Option Allocation :=
  match request.workflowId with
  | none => none
  | some workflowId =>
    if d.counts request.ts then some (d.allocation entries request workflowId) else none

def alloc (entries : List (Entry T)) (requests : List (Spend T)) : List Allocation :=
  requests.filterMap (d.allocate entries)

def counted (entries : List (Entry T)) : List Counted :=
  (entries.filter fun entry => d.counts entry.eventTime).map Entry.counted

end Dialect

/-- `WorkflowEconomics`; no order of its currencies is promised. -/
structure WorkflowEconomics where
  workflowId : Str
  outcomeType : Scalar
  acceptedCount : Nat
  rejectedCount : Nat
  failedCount : Nat
  costTotalUsd : ℚ
  costAcceptedUsd : ℚ
  costReworkUsd : ℚ
  costUnattributedUsd : ℚ
  costPerAcceptedUsd : Option ℚ
  businessValueAccepted : Option ℚ
  businessValueCurrency : Option Str
  businessValueCurrencies : Multiset Str
  businessValueExcluded : Bool

/-- `SUM`. -/
def sumOrNull : List ℚ → Option ℚ
  | [] => none
  | values => some values.sum

/-- The row of a group, from `spend` and `counts` joined by its key. -/
def economicsRow (currencies : List Str → List Str) (allocated : List Allocation)
    (counted : List Counted) (key : Key) : WorkflowEconomics :=
  let cost (condition : Option OutcomeStatus → Bool) : ℚ :=
    sumWhere (fun a => a.key = key && condition a.status) Allocation.costUsd allocated
  let group := counted.filter fun c => c.key = key
  let count (status : OutcomeStatus) : Nat := group.countP fun c => c.status = status
  let accepted := group.filter fun c => c.status = .accepted
  let distinct := (accepted.filterMap Counted.currency).dedup
  let costTotal := cost fun _ => true
  { workflowId := key.1, outcomeType := key.2
    acceptedCount := count .accepted, rejectedCount := count .rejected, failedCount := count .failed
    costTotalUsd := costTotal
    costAcceptedUsd := cost fun status => status = some .accepted
    costReworkUsd := cost fun status => status = some .rejected || status = some .failed
    costUnattributedUsd := cost fun status => status = none
    costPerAcceptedUsd :=
      if count .accepted = 0 then none else some (costTotal / count .accepted)
    businessValueAccepted :=
      if distinct.length ≤ 1 then sumOrNull (accepted.filterMap Counted.businessValue) else none
    businessValueCurrency := if distinct.length ≤ 1 then distinct.head? else none
    businessValueCurrencies := ↑(currencies distinct)
    businessValueExcluded := 1 < distinct.length }

def keys (allocated : List Allocation) (counted : List Counted) : List Key :=
  (allocated.map Allocation.key ++ counted.map Counted.key).dedup

/-- `ORDER BY cost_total DESC`. -/
def byCost (rows : List WorkflowEconomics) : List WorkflowEconomics :=
  rows.insertionSort fun a b => b.costTotalUsd ≤ a.costTotalUsd

def report (currencies : List Str → List Str) (allocated : List Allocation)
    (counted : List Counted) : List WorkflowEconomics :=
  byCost ((keys allocated counted).map (economicsRow currencies allocated counted))

def Dialect.economics {T : Type} (d : Dialect T) (entries : List (Entry T))
    (requests : List (Spend T)) : List WorkflowEconomics :=
  report d.currencies (d.alloc entries requests) (d.counted entries)

def getWorkflowEconomics (clock : JulianClock) (firstForType firstForStatus : First textLe)
    (minify : Json → Str) (requests : List (Spend DateTime)) (rows : List OutcomeRow)
    (since : DateTime) (windowSeconds : Nat) : List WorkflowEconomics :=
  (sqlite clock firstForType firstForStatus since windowSeconds).economics
    (rows.filterMap (localEntry minify)) requests

def outcomesSummary (firstForType firstForStatus : First instantLe) (jsonText : Json → Str)
    (requests : List (Spend Int)) (rows : List CloudOutcome) (since : DateTime)
    (windowSeconds : Nat) : List WorkflowEconomics :=
  (postgres firstForType firstForStatus since windowSeconds).economics
    (rows.map (cloudEntry jsonText)) requests

/-- The local row, as the backend would store it. -/
def mirrored (row : OutcomeRow) : Option CloudOutcome :=
  (readIsoformat row.eventTime).map fun eventTime =>
    { outcomeId := row.outcomeId, workflowId := row.workflowId, status := row.status
      businessValue := row.businessValue, currency := row.currency
      eventTime := eventTime.instant, source := row.source, metadata := row.metadata }

def Spend.mirrored (request : Spend DateTime) : Spend Int :=
  { request with ts := request.ts.instant }

end BurnLens.Economics
