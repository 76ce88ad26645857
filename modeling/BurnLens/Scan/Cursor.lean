import BurnLens.Library.Machine
import BurnLens.Scan.Sessions
import BurnLens.Storage.Requests

/-! # The scan of Cursor's database

Cursor keeps its bubbles in one database file.  A scan imports those that carry tokens, and keeps
the size and the time of the file in a cache, to skip a file that is as it was.
-/

namespace BurnLens.Scan

open Library Cost Storage

/-- `datetime.fromtimestamp` in UTC and `datetime.fromisoformat`; an instant, or a time without an
    offset. -/
structure Clock where
  fromTimestamp : Flt → Option Int
  fromIsoformat : Str → Option (Option Int)

/-- The time of a bubble; the time of the reading where it cannot be read. -/
inductive BubbleTime where
  | aware (instant : Int)
  | naive
  | now

/-! ## Bubbles -/

structure CursorBubble where
  bubbleId : Str
  model : Str
  inputTokens : Int
  outputTokens : Int
  cacheReadTokens : Int
  cacheWriteTokens : Int
  timestamp : BubbleTime
  workspacePath : Json

/-- The time that a number of seconds, or of milliseconds, stands for. -/
def Clock.readNumber (clock : Clock) (raw : Number) : Except PyError BubbleTime := do
  let seconds := (← raw.toFloat)
  let scaled := if raw.exceeds 1000000000000 then seconds.scale (1 / 1000) else seconds
  return ((clock.fromTimestamp scaled).map BubbleTime.aware).getD .now

/-- `_parse_timestamp`. -/
def Clock.readBubbleTime (clock : Clock) : Json → Except PyError BubbleTime
  | .bool b => clock.readNumber (.int b.toInt)
  | .int n => clock.readNumber (.int n)
  | .float x => clock.readNumber (.float x)
  | .str raw =>
    let normalized := if raw.getLast? = some 'Z' then
        raw.flatMap fun c => if c = 'Z' then "+00:00".toList else [c]
      else raw
    match clock.fromIsoformat normalized with
    | some (some instant) => .ok (.aware instant)
    | some none => .ok .naive
    | none => .ok .now
  | _ => .ok .now

def autoModelLabel : Str := "cursor-auto-sonnet-est"

def normalizeModel (model : Json) : Except PyError Str :=
  if !model.truthy then .ok autoModelLabel
  else match model with
  | .str model => .ok (if lower (strip model) = "auto" then autoModelLabel else model)
  | _ => .error .attributeError

/-- `_bubble_from_row`; the value is a text, or none. -/
def bubbleFromRow (py : Python) (clock : Clock) (key : Str) (value : Option Str) :
    Except PyError (Option CursorBubble) :=
  match (value.map py.load).getD (.ok none) with
  | .error error => .error error
  | .ok (some (.obj data)) =>
    match (get data "tokenCount").orElse (.obj []) with
    | .obj tokenCount => do
      let inputTokens ← py.count tokenCount "inputTokens"
      let outputTokens ← py.count tokenCount "outputTokens"
      let cacheReadTokens ← py.count tokenCount "cacheReadTokens"
      let cacheWriteTokens ← py.count tokenCount "cacheWriteTokens"
      if inputTokens + outputTokens + cacheReadTokens + cacheWriteTokens = 0 then return none
      let model ← normalizeModel (get data "model")
      let timestamp ← clock.readBubbleTime (get data "timestamp")
      return some
        { bubbleId := removePrefix "bubbleId:" key, model, inputTokens, outputTokens
          cacheReadTokens, cacheWriteTokens, timestamp
          workspacePath := (get data "workspacePath").orElse (get data "workspace") }
    | _ => .ok none
  | .ok _ => .ok none

/-- `key LIKE 'bubbleId:%'`. -/
def isBubbleKey (key : Str) : Bool := (key.take 9).map Char.toLower == "bubbleid:".toList

/-- The bubble is not before `since`; a time without an offset cannot be told. -/
def CursorBubble.counts (now : Int) (since : Option Int) (bubble : CursorBubble) :
    Except PyError Bool :=
  match since, bubble.timestamp with
  | none, _ => .ok true
  | some since, .aware instant => .ok (since ≤ instant)
  | some since, .now => .ok (since ≤ now)
  | some _, .naive => .error .typeError

abbrev BubbleRow := Str × Option Str

/-- The bubbles of the rows, by `read_bubbles` where the database answers. -/
def bubblesOf (py : Python) (clock : Clock) (now : Int) (since : Option Int) :
    List BubbleRow → Except PyError (List CursorBubble)
  | [] => .ok []
  | (key, value) :: rows =>
    if isBubbleKey key then do
      match ← bubbleFromRow py clock key value with
      | none => bubblesOf py clock now since rows
      | some bubble =>
        let counted ← bubble.counts now since
        let bubbles ← bubblesOf py clock now since rows
        return if counted then bubble :: bubbles else bubbles
    else bubblesOf py clock now since rows

def CursorBubble.usage (bubble : CursorBubble) : TokenUsage where
  inputTokens := .int bubble.inputTokens
  outputTokens := .int bubble.outputTokens
  cacheReadTokens := .int bubble.cacheReadTokens
  cacheWriteTokens := .int bubble.cacheWriteTokens

def checkWorkspace (py : Python) (workspace : Json) : Except PyError Unit :=
  if !workspace.truthy then .ok () else py.checkDirectory workspace

/-- The model of the bubble and the name of its workspace can be stored. -/
def CursorBubble.encodable (py : Python) (bubble : CursorBubble) : Bool :=
  py.encodable [.str bubble.model] &&
    (!bubble.workspacePath.truthy || py.directoryEncodable bubble.workspacePath)

def bubbleToRecord (py : Python) (tables : PricingTables) (today : Date) (bubble : CursorBubble) :
    Except PyError RequestRecord := do
  checkWorkspace py bubble.workspacePath
  let cost ← calculateCost tables today "cursor" (.str bubble.model) bubble.usage
  return {
    eventId := none
    source := some ("scan_cursor" : Str)
    requestId := some bubble.bubbleId
    provider := "cursor"
    model := .str bubble.model
    requestPath := .str "/cursor/bubble"
    inputTokens := .int bubble.inputTokens
    outputTokens := .int bubble.outputTokens
    cacheReadTokens := .int bubble.cacheReadTokens
    cacheWriteTokens := .int bubble.cacheWriteTokens
    costUsd := .float cost
    encodable := bubble.encodable py }

/-! ## Files -/

structure Stat where
  size : Nat
  mtime : Flt
deriving DecidableEq

/-- The database file of Cursor. -/
structure Source where
  stat : Stat
  rows : List BubbleRow
deriving DecidableEq

structure CacheEntry where
  dbPath : Str
  stat : Stat
deriving DecidableEq

/-- A scan that read the database, imported its bubbles, and ended. -/
structure Completed where
  source : Str
  stat : Stat
  target : Str
  since : Option Int
  now : Int
deriving DecidableEq

structure CursorState where
  sources : Str → Option Source
  targets : Str → List StoredRow
  cache : Option CacheEntry := none
  drawn : Nat := 0
  completed : List Completed := []

structure CursorCall where
  target : Str
  since : Option Int := none
  dryRun : Bool := false
  source : Str
  useCache : Bool := true

/-- What the database answers to a scan, at its second try if it is locked at the first. -/
inductive Answer where
  | rows
  -- an `OperationalError`
  | nothing
  -- an error of another kind
  | raises
deriving DecidableEq

/-- What happens during a scan. -/
structure Surroundings where
  now : Int
  today : Date
  -- the file of the cache can be read, and written
  cacheReads : Bool := true
  cacheWrites : Bool := true
  -- Cursor writes its database between the `stat` and the reading
  during : Option Source := none
  answer : Answer := .rows

structure CursorScanResult where
  stat : Option Stat := none
  skippedDueToCache : Bool := false
  bubblesParsed : Nat := 0
  recordsInserted : Nat := 0
  recordsSkipped : Nat := 0
  totalCostUsd : Flt := .fin 0

/-! ## The scan -/

structure CursorImporter where
  python : Python
  clock : Clock
  tables : PricingTables
  uuid7 : Nat → Str
  fresh : Function.Injective uuid7

structure BubbleImport where
  rows : List StoredRow
  drawn : Nat
  result : CursorScanResult

namespace CursorImporter

variable (w : CursorImporter)

def importBubble (today : Date) (dryRun : Bool) (s : BubbleImport) (bubble : CursorBubble) :
    BubbleImport × Option PyError :=
  match bubbleToRecord w.python w.tables today bubble with
  | .error error => (s, some error)
  | .ok record =>
    let cost := match record.costUsd with
      | .float cost => cost
      | _ => .fin 0
    let result := { s.result with totalCostUsd := s.result.totalCostUsd.add cost }
    if dryRun then ({ s with result }, none)
    else match insertRequest w.tables today (w.uuid7 s.drawn) s.rows record with
    | .error error => ({ s with drawn := s.drawn + 1, result }, some error)
    | .ok (rows, rowId) =>
      let result := if 0 < rowId then { result with recordsInserted := result.recordsInserted + 1 }
        else { result with recordsSkipped := result.recordsSkipped + 1 }
      ({ rows, drawn := s.drawn + 1, result }, none)

def importBubbles (today : Date) (dryRun : Bool) (s : BubbleImport) :
    List CursorBubble → BubbleImport × Option PyError
  | [] => (s, none)
  | bubble :: bubbles =>
    match w.importBubble today dryRun s bubble with
    | (s', none) => importBubbles today dryRun s' bubbles
    | (s', some error) => (s', some error)

/-- `read_bubbles`; nothing, where the database does not answer. -/
def readBubbles (around : Surroundings) (since : Option Int) (source : Source) :
    Except PyError (List CursorBubble) :=
  match around.answer with
  | .rows => bubblesOf w.python w.clock around.now since source.rows
  | .nothing => .ok []
  | .raises => .error .databaseError

end CursorImporter

namespace CursorState

variable (w : CursorImporter) (around : Surroundings) (call : CursorCall) (s : CursorState)

def hits (stat : Stat) : Bool :=
  call.useCache && around.cacheReads && decide (s.cache = some ⟨call.source, stat⟩)

def setSource (s : CursorState) (path : Str) (source : Option Source) : CursorState :=
  { s with sources := fun other => if other = path then source else s.sources other }

def written (around : Surroundings) (s : CursorState) (path : Str) : CursorState :=
  match around.during with
  | none => s
  | some source => s.setSource path source

/-- The scan of a database that is not skipped. -/
def importFrom (stat : Stat) (source : Source) : CursorState × Except PyError CursorScanResult :=
  match w.readBubbles around call.since source with
  | .error error => (s, .error error)
  | .ok bubbles =>
    let start : BubbleImport :=
      { rows := s.targets call.target, drawn := s.drawn
        result := { stat := some stat, bubblesParsed := bubbles.length } }
    let (imported, error) := w.importBubbles around.today call.dryRun start bubbles
    let stored : CursorState :=
      { s with
        targets := fun target => if target = call.target then imported.rows else s.targets target
        drawn := imported.drawn }
    match error with
    | some error => (stored, .error error)
    | none =>
      if call.dryRun then (stored, .ok imported.result)
      else
        ({ stored with
            cache := if around.cacheWrites then some ⟨call.source, stat⟩ else s.cache
            completed := if around.answer = .rows then
                ⟨call.source, source.stat, call.target, call.since, around.now⟩ :: s.completed
              else s.completed },
          .ok imported.result)

def scanCursor : CursorState × Except PyError CursorScanResult :=
  match s.sources call.source with
  | none => (s, .ok {})
  | some source =>
    if s.hits around call source.stat then
      (s, .ok { stat := some source.stat, skippedDueToCache := true })
    else
      (s.written around call.source).importFrom w around call source.stat
        (around.during.getD source)

end CursorState

inductive CursorStep where
  -- Cursor writes its database, or it goes away
  | modify (path : Str) (source : Option Source)
  | scan (call : CursorCall) (around : Surroundings)

def cursorScans (w : CursorImporter) : Machine CursorState CursorStep where
  step s
    | .modify path source => some (s.setSource path source)
    | .scan call around => some (s.scanCursor w around call).1

end BurnLens.Scan
