import BurnLens.Cache.StreamReplay
import BurnLens.Library.Machine
import BurnLens.Proxy.Accounting
import BurnLens.Proxy.SseFraming
import BurnLens.Storage.Requests
import Mathlib.Data.List.Nodup

/-! # Correlated answers

The answers that carry an event id, from the cache, from a completed upstream exchange or from a
stream, the background tasks that write their rows, and the generator of a stream as its caller
drives it.  One task, or one resumption of a generator, runs at a time.
-/

namespace BurnLens.Proxy

open Library Providers Cost Storage Cache

/-- `body.get("id")`, where it is a text with something in it. -/
def idOf : Json → Option Str
  | .obj body =>
    match Fields.getD body "id" .null with
    | .str [] => none
    | .str requestId => some requestId
    | _ => none
  | _ => none

def requestIdHeaders : List Str :=
  ["x-request-id", "request-id", "x-goog-correlation-id", "x-amzn-requestid", "apihdr-request-id"]

/-- `_extract_request_id`, of a body where there is one. -/
def extractRequestId (headers : Headers) (json : Option Json) : Option Str :=
  (json.bind idOf).or
    (requestIdHeaders.findSome? fun name => (lowerGet headers name).filter fun value => value ≠ [])

def extractRequestIdFromChunks (loads : Str → Option Json) (chunks : List Str) : Option Str :=
  chunks.findSome? fun chunk =>
    (splitlines chunk).findSome? fun line => (lineJson loads .openai line).bind idOf

/-- The segments that `analyze_request_prompt` finds; they sum up to the input tokens. -/
structure PromptTokens where
  system : Int
  user : Int
  tools : Int
  rag : Int
  history : Int
  bounded : ∀ tokens ∈ [system, user, tools, rag, history], -2 ^ 63 ≤ tokens ∧ tokens < 2 ^ 63

/-- The record of a call.  All input tokens are the user's where the prompt was not analyzed. -/
def callRecord (encodes : Str → Bool) (eventId : Str) (provider : Provider) (model : Str)
    (usage : TokenUsage) (cost : Flt) (statusCode : Nat) (prompt : Option PromptTokens)
    (requestId : Option Str) : RequestRecord where
  eventId := some eventId
  requestId := requestId
  provider := provider.name
  model := .str model
  inputTokens := usage.inputTokens
  outputTokens := usage.outputTokens
  reasoningTokens := usage.reasoningTokens
  cacheReadTokens := usage.cacheReadTokens
  cacheWriteTokens := usage.cacheWriteTokens
  costUsd := .float cost
  statusCode := .int statusCode
  promptSystemTokens := .int ((prompt.map PromptTokens.system).getD 0)
  promptUserTokens := (prompt.map fun tokens => Json.int tokens.user).getD usage.inputTokens
  promptToolsTokens := .int ((prompt.map PromptTokens.tools).getD 0)
  promptRagTokens := .int ((prompt.map PromptTokens.rag).getD 0)
  promptHistoryTokens := .int ((prompt.map PromptTokens.history).getD 0)
  encodable := encodes model && requestId.all encodes

def hitRecord (encodes : Str → Bool) (eventId : Str) (provider : Provider) (model : Str)
    (usage : TokenUsage) (saved : Flt) (prompt : Option PromptTokens) : RequestRecord :=
  { callRecord encodes eventId provider model usage (.fin 0) 200 prompt none with
    cacheHit := .int 1
    cacheSavedUsd := .float saved }

/-! ## Answers and tasks -/

/-- What the caller has received; of a body, what `json.loads` makes of it. -/
inductive Received where
  | body (json : Option Json)
  | chunks (chunks : List (List UInt8))
  -- the chunks that are made of the body of the cache
  | replay (cached : Option Json) (chunks : List (List UInt8))

inductive Generator where
  -- not iterated
  | unread
  -- waiting for a chunk, with all earlier ones in its buffer
  | reading
  -- at the `yield`, with all chunks in its buffer but the last
  | yielded
  -- that of a hit, with the chunks that are still to come
  | replays (rest : List (List UInt8))
  -- finished; also for an answer that is no stream
  | closed
deriving DecidableEq

structure Exchange where
  eventId : Str
  provider : Provider
  model : Str
  statusCode : Nat
  received : Received
  generator : Generator
  -- of a stream, from the headers
  requestId : Option Str := none

def Received.usage (loads : Str → Option Json) (provider : Provider) : Received → TokenUsage
  | .body json => guardedUsage provider json
  | .chunks parts | .replay _ parts => streamUsage loads provider parts

def Exchange.usage (loads : Str → Option Json) (exchange : Exchange) : TokenUsage :=
  exchange.received.usage loads exchange.provider

inductive Task where
  -- `_log_cache_hit`
  | logHit (eventId : Str) (provider : Provider) (model : Str) (json : Option Json)
      (prompt : Option PromptTokens)
  -- `_log_streaming_usage`, with the chunks in the buffer
  | logStream (eventId : Str) (provider : Provider) (model : Str) (statusCode : Nat)
      (buffered : List (List UInt8)) (prompt : Option PromptTokens) (requestId : Option Str)
  -- `_log_via_wal`
  | viaWal (record : RequestRecord)
  -- the persistence worker, which retries
  | enqueued (record : RequestRecord)
  -- `_log_record`
  | direct (record : RequestRecord)

/-- The task that the `finally` block of a stream starts, unless `response.aclose` raises. -/
def Exchange.logStream (exchange : Exchange) (buffered : List (List UInt8)) (acloses : Bool)
    (prompt : Option PromptTokens) : Option Task :=
  if acloses then
    some (.logStream exchange.eventId exchange.provider exchange.model exchange.statusCode buffered prompt
      exchange.requestId)
  else none

structure SavedRow where
  row : StoredRow
  record : RequestRecord

structure ProxyState where
  exchanges : List Exchange := []
  tasks : List Task := []
  -- the records in the write-ahead log
  wal : List RequestRecord := []
  rows : List SavedRow := []

inductive ProxyEvent where
  -- a hit with this body in the cache, for a request that may ask for a stream
  | hit (eventId : Str) (provider : Provider) (model : Str) (body : Str) (streaming : Bool)
      (now : Int) (prompt : Option PromptTokens)
  | answer (eventId : Str) (provider : Provider) (model : Str) (response : UpstreamResponse)
      (prompt : Option PromptTokens)
  | openStream (eventId : Str) (provider : Provider) (model : Str) (statusCode : Nat)
      (headers : Headers)
  -- the caller asks for a chunk, which a replay has at hand
  | demand (eventId : Str)
  | chunk (eventId : Str) (bytes : List UInt8)
  -- the stream ends, the upstream fails or the caller gives up; `response.aclose` may raise
  | close (eventId : Str) (acloses : Bool) (prompt : Option PromptTokens)
  -- a task runs; putting a record into the queue of the worker may fail
  | run (index : Nat) (enqueues : Bool)
  -- `recover_wal` replays a record of the log
  | replay (index : Nat)

structure Deployment where
  tables : PricingTables
  today : Date
  json : JsonModule
  -- UTF-8 can encode the text, which then has no lone surrogate
  encodes : Str → Bool
  -- there are a write-ahead log and a worker
  hasWal : Bool

def Deployment.loads (env : Deployment) : Str → Option Json := env.json.loads

/-! ## Steps -/

namespace ProxyState

variable (s : ProxyState)

/-- `uuid7` draws an id that nothing has yet. -/
def isFresh (eventId : Str) : Bool :=
  eventId ≠ [] && (s.exchanges.all fun exchange => exchange.eventId ≠ eventId) &&
    s.rows.all fun row => row.row.eventId ≠ eventId

def add (exchange : Exchange) (task : Option Task) : ProxyState :=
  { s with exchanges := s.exchanges ++ [exchange], tasks := s.tasks ++ task.toList }

def replace (exchange : Exchange) (task : Option Task) : ProxyState :=
  { s with
    exchanges := s.exchanges.map fun other =>
      if other.eventId = exchange.eventId then exchange else other
    tasks := s.tasks ++ task.toList }

def stream (eventId : Str) : Option Exchange :=
  s.exchanges.find? fun exchange => exchange.eventId = eventId && exchange.generator ≠ .closed

end ProxyState

namespace Deployment

variable (env : Deployment)

def persist (rows : List SavedRow) (record : RequestRecord) : Except PyError (List SavedRow) := do
  let (_, rowId) ← insertRequest env.tables env.today [] (rows.map SavedRow.row) record
  if rowId = 0 then return rows
  else
    return rows ++
      [⟨⟨rowId, record.resolveEventId [], record.source, record.requestId⟩, record⟩]

/-- `asyncio.create_task` of the insertion. -/
def logTask (record : RequestRecord) : Task := if env.hasWal then .viaWal record else .direct record

/-- The row of a hit is that of the cached body, also where chunks are made of it. -/
def hit (s : ProxyState) (eventId : Str) (provider : Provider) (model : Str) (body : Str)
    (streaming : Bool) (now : Int) (prompt : Option PromptTokens) : ProxyState :=
  let json := env.loads body
  let chunks := (reconstructStreamingChunks env.json now provider body).map utf8
  s.add
    (if streaming then ⟨eventId, provider, model, 200, .replay json [], .replays chunks, none⟩
      else ⟨eventId, provider, model, 200, .body json, .closed, none⟩)
    (some (.logHit eventId provider model json prompt))

/-- An answer goes out only if its cost is defined. -/
def answer (s : ProxyState) (eventId : Str) (provider : Provider) (model : Str)
    (response : UpstreamResponse) (prompt : Option PromptTokens) : ProxyState :=
  match handleNonStreaming env.tables env.today provider model eventId response with
  | .error _ => s
  | .ok (_, recorded) =>
    s.add ⟨eventId, provider, model, response.statusCode, .body response.json, .closed, none⟩ <|
      some <| env.logTask <| callRecord env.encodes recorded.eventId provider model recorded.usage
        recorded.costUsd recorded.statusCode prompt (extractRequestId response.headers response.json)

/-- The generator goes on behind the `yield`, or starts; a replay hands out its next chunk. -/
def demand (s : ProxyState) (eventId : Str) : Option ProxyState :=
  (s.stream eventId).bind fun exchange =>
    match exchange.generator, exchange.received with
    | .unread, _ | .yielded, _ => some (s.replace { exchange with generator := .reading } none)
    | .replays (bytes :: rest), .replay cached chunks =>
      some (s.replace
        { exchange with received := .replay cached (chunks ++ [bytes]), generator := .replays rest }
        none)
    | _, _ => none

/-- The chunk goes to the caller, and into the buffer at the next demand. -/
def chunk (s : ProxyState) (eventId : Str) (bytes : List UInt8) : Option ProxyState :=
  (s.stream eventId).bind fun exchange =>
    match exchange.generator, exchange.received with
    | .reading, .chunks chunks =>
      some (s.replace
        { exchange with received := .chunks (chunks ++ [bytes]), generator := .yielded } none)
    | _, _ => none

/-- The `finally` block, which a generator that was not iterated does not reach; a replay has none. -/
def close (s : ProxyState) (eventId : Str) (acloses : Bool) (prompt : Option PromptTokens) :
    Option ProxyState :=
  (s.stream eventId).bind fun exchange =>
    let closed := { exchange with generator := .closed }
    match exchange.generator, exchange.received with
    | .unread, _ | .replays _, _ => some (s.replace closed none)
    | .reading, .chunks chunks => some (s.replace closed (exchange.logStream chunks acloses prompt))
    | .yielded, .chunks chunks =>
      some (s.replace closed (exchange.logStream chunks.dropLast acloses prompt))
    | _, _ => none

/-- The request id of a stream, from its headers or else from the events with usage. -/
def streamRequestId (provider : Provider) (requestId : Option Str) (buffered : List (List UInt8)) :
    Option Str :=
  requestId.or (extractRequestIdFromChunks env.loads (splitSseEvents provider (rawBuffer buffered)))

def runTask (s : ProxyState) (task : Task) (rest : List Task) (enqueues : Bool) : ProxyState :=
  match task with
  | .logHit eventId provider model json prompt =>
    let usage := guardedUsage provider json
    match calculateCost env.tables env.today provider.name (.str model) usage with
    | .error _ => { s with tasks := rest }
    | .ok saved =>
      let record := hitRecord env.encodes eventId provider model usage saved prompt
      if env.hasWal then { s with wal := s.wal ++ [record], tasks := rest ++ [.enqueued record] }
      else { s with tasks := rest ++ [.direct record] }
  | .logStream eventId provider model statusCode buffered prompt requestId =>
    let usage := streamUsage env.loads provider buffered
    match calculateCost env.tables env.today provider.name (.str model) usage with
    | .error _ => { s with tasks := rest }
    | .ok cost =>
      { s with tasks := rest ++
          [env.logTask (callRecord env.encodes eventId provider model usage cost statusCode prompt
            (env.streamRequestId provider requestId buffered))] }
  | .viaWal record =>
    { s with
      wal := s.wal ++ [record]
      tasks := rest ++ [if enqueues then .enqueued record else .direct record] }
  | .enqueued record =>
    match env.persist s.rows record with
    | .ok rows => { s with rows, tasks := rest }
    | .error _ => s
  | .direct record =>
    match env.persist s.rows record with
    | .ok rows => { s with rows, tasks := rest }
    | .error _ => { s with tasks := rest }

def run (s : ProxyState) (index : Nat) (enqueues : Bool) : Option ProxyState :=
  match s.tasks.drop index with
  | task :: rest => some (env.runTask s task (s.tasks.take index ++ rest) enqueues)
  | [] => none

def replay (s : ProxyState) (index : Nat) : Option ProxyState :=
  s.wal[index]?.map fun record =>
    match env.persist s.rows record with
    | .ok rows => { s with rows }
    | .error _ => s

def machine : Machine ProxyState ProxyEvent where
  step s
    | .hit eventId provider model body streaming now prompt =>
      if s.isFresh eventId then some (env.hit s eventId provider model body streaming now prompt)
      else none
    | .answer eventId provider model response prompt =>
      if s.isFresh eventId ∧ response.statusCode < 1000 then
        some (env.answer s eventId provider model response prompt)
      else none
    | .openStream eventId provider model statusCode headers =>
      if s.isFresh eventId ∧ statusCode < 400 then
        some (s.add ⟨eventId, provider, model, statusCode, .chunks [], .unread,
          extractRequestId headers none⟩ none)
      else none
    | .demand eventId => demand s eventId
    | .chunk eventId bytes => chunk s eventId bytes
    | .close eventId acloses prompt => close s eventId acloses prompt
    | .run index enqueues => env.run s index enqueues
    | .replay index => env.replay s index

end Deployment

def usageCounts (usage : TokenUsage) : List Json :=
  [usage.inputTokens, usage.outputTokens, usage.reasoningTokens, usage.cacheReadTokens,
    usage.cacheWriteTokens]

def recordCounts (record : RequestRecord) : List Json :=
  [record.inputTokens, record.outputTokens, record.reasoningTokens, record.cacheReadTokens,
    record.cacheWriteTokens]

/-- After all tasks have run, an answer that is complete has one row, with the counts of what was
    received. -/
def Correlated (loads : Str → Option Json) (s : ProxyState) : Prop :=
  s.tasks = [] → ∀ exchange ∈ s.exchanges, exchange.generator = .closed →
    ∃ row, (s.rows.filter fun row => row.row.eventId = exchange.eventId) = [row] ∧
      recordCounts row.record = usageCounts (exchange.usage loads)

def Storable (value : Json) : Prop := bindable value = true ∧ bindsNull value = false

instance (value : Json) : Decidable (Storable value) := inferInstanceAs (Decidable (_ ∧ _))

/-- The usage has a cost, and counts that the columns of the table take; and the texts encode. -/
structure Recordable (env : Deployment) (provider : Provider) (model : Str) (usage : TokenUsage)
    (requestId : Option Str) : Prop where
  cost : ∃ cost, calculateCost env.tables env.today provider.name (.str model) usage = .ok cost ∧
    cost ≠ .nan
  counts : ∀ count ∈ usageCounts usage, Storable count
  model : env.encodes model = true
  requestId : ∀ text ∈ requestId, env.encodes text = true

/-- The chunks that are in the buffer of the generator. -/
def Exchange.buffered (exchange : Exchange) (chunks : List (List UInt8)) : List (List UInt8) :=
  if exchange.generator = .yielded then chunks.dropLast else chunks

/-- A stream is closed where all of its usage is in the buffer; and the chunks that were taken of a
    replay have the counts of the cached body. -/
structure ClosesWhole (env : Deployment) (exchange : Exchange) (acloses : Bool) : Prop where
  acloses : ∀ chunks, exchange.received = .chunks chunks → acloses = true
  iterated : exchange.generator ≠ .unread
  buffered : ∀ chunks, exchange.received = .chunks chunks →
    streamUsage env.loads exchange.provider (exchange.buffered chunks) =
      streamUsage env.loads exchange.provider chunks
  recordable : ∀ chunks, exchange.received = .chunks chunks →
    Recordable env exchange.provider exchange.model (exchange.usage env.loads)
      (env.streamRequestId exchange.provider exchange.requestId (exchange.buffered chunks))
  replayed : ∀ cached chunks, exchange.received = .replay cached chunks →
    usageCounts (streamUsage env.loads exchange.provider chunks) =
      usageCounts (guardedUsage exchange.provider cached)

def Accounted (env : Deployment) (s : ProxyState) : ProxyEvent → Prop
  | .hit _ provider model body _ _ _ =>
    Recordable env provider model (guardedUsage provider (env.loads body)) none
  | .answer eventId provider model response _ =>
    (∃ answered, handleNonStreaming env.tables env.today provider model eventId response =
      .ok answered) → Recordable env provider model (guardedUsage provider response.json)
        (extractRequestId response.headers response.json)
  | .close eventId acloses _ =>
    ∀ exchange, s.stream eventId = some exchange → ClosesWhole env exchange acloses
  | _ => True

/-! ## Inserting a record -/

structure Insertable (env : Deployment) (eventId : Str) (record : RequestRecord) : Prop where
  identified : record.eventId = some eventId
  priced : pricingColumns env.tables env.today record = .ok ()
  storable : ∀ column ∈ record.required, Storable column.2
  noOthers : record.nullable = []
  encodable : record.encodable = true
  proxied : record.source = some ("proxy" : Str)

section

variable {env : Deployment} {eventId : Str} {record : RequestRecord}

theorem Insertable.resolved (insertable : Insertable env eventId record) (filled : eventId ≠ []) :
    record.resolveEventId [] = eventId := by
  rw [RequestRecord.resolveEventId, insertable.identified]
  cases eventId with
  | nil => exact absurd rfl filled
  | cons c eventId => rfl

theorem Insertable.persist (insertable : Insertable env eventId record) (filled : eventId ≠ [])
    (rows : List SavedRow) :
    (env.persist rows record = .ok rows ∧ ∃ row ∈ rows, row.row.eventId = eventId) ∨
      ((∀ row ∈ rows, row.row.eventId ≠ eventId) ∧ ∃ row : SavedRow,
        env.persist rows record = .ok (rows ++ [row]) ∧ row.row.eventId = eventId ∧
          row.record = record) := by
  have resolved := insertable.resolved filled
  have stored : alreadyStored (rows.map SavedRow.row) eventId record =
      rows.any fun row => row.row.eventId == eventId := by
    have noScan : isScanSource "proxy" = false := by decide
    simp only [alreadyStored, sameScan, insertable.proxied, Option.map_some, noScan,
      Option.getD_some, Bool.and_false, Bool.false_and, Bool.or_false, List.any_map]
    rfl
  have bound : record.required.all (fun column => bindable column.2) = true :=
    List.all_eq_true.mpr fun column listed => (insertable.storable column listed).1
  have complete : record.complete = true :=
    List.all_eq_true.mpr fun column listed => by rw [(insertable.storable column listed).2, Bool.not_false]
  have insert : insertRequest env.tables env.today [] (rows.map SavedRow.row) record =
      if (rows.any fun row => row.row.eventId == eventId) = true then
        .ok (rows.map SavedRow.row, 0)
      else .ok (rows.map SavedRow.row ++
        [⟨(rows.map SavedRow.row).length + 1, eventId, record.source, record.requestId⟩],
          (rows.map SavedRow.row).length + 1) := by
    simp only [insertRequest, insertable.priced, bind, Except.bind, bound, insertable.noOthers,
      insertable.encodable, List.all_nil, Bool.not_true, Bool.or_self, Bool.false_eq_true, if_false, pure, Except.pure,
      resolved, complete, stored, Bool.false_or]
  by_cases present : (rows.any fun row => row.row.eventId == eventId) = true
  · refine .inl ⟨?_, ?_⟩
    · simp only [Deployment.persist, insert, if_pos present, bind, Except.bind, pure, Except.pure,
        if_true]
    · obtain ⟨row, member, same⟩ := List.any_eq_true.mp present
      exact ⟨row, member, eq_of_beq same⟩
  · refine .inr ⟨fun row member same => present ?_, ?_⟩
    · exact List.any_eq_true.mpr ⟨row, member, beq_iff_eq.mpr same⟩
    · refine ⟨⟨⟨(rows.map SavedRow.row).length + 1, record.resolveEventId [], record.source,
        record.requestId⟩, record⟩, ?_, resolved, rfl⟩
      simp only [Deployment.persist, insert, if_neg present, bind, Except.bind, pure, Except.pure,
        Nat.succ_ne_zero, if_false]

/-! ## Records of a usage -/

theorem storable_int {n : Int} (low : -2 ^ 63 ≤ n) (high : n < 2 ^ 63) : Storable (.int n) :=
  ⟨decide_eq_true ⟨low, high⟩, rfl⟩

theorem storable_float {x : Flt} (number : x ≠ .nan) : Storable (.float x) := by
  cases x with
  | nan => exact absurd rfl number
  | _ => exact ⟨rfl, rfl⟩

theorem pricingColumns_callRecord {provider : Provider} {model : Str} {usage : TokenUsage}
    {cost : Flt}
    (defined : calculateCost env.tables env.today provider.name (.str model) usage = .ok cost)
    (recorded : Flt) (statusCode : Nat) (prompt : Option PromptTokens) (requestId : Option Str) :
    pricingColumns env.tables env.today (callRecord env.encodes eventId provider model usage recorded
      statusCode prompt requestId) = .ok () := by
  obtain ⟨resolved, found⟩ := resolvePricing_str env.tables env.today provider.name model
  rw [calculateCost, found] at defined
  cases resolved with
  | none => simp [pricingColumns, callRecord, isModelPriced, found, bind, Except.bind, pure, Except.pure]
  | some pricing =>
    obtain ⟨pricing, same, defined⟩ := bind_eq_ok.mp defined
    cases same
    obtain ⟨rates, tiered, -⟩ := bind_eq_ok.mp defined
    simp [pricingColumns, callRecord, isModelPriced, found, tiered, bind, Except.bind, pure, Except.pure]

theorem storable_callRecord {provider : Provider} {model : Str} {usage : TokenUsage}
    (counts : ∀ count ∈ usageCounts usage, Storable count) {cost saved : Flt} (number : cost ≠ .nan)
    (savedNumber : saved ≠ .nan) {statusCode cacheHit : Nat} (status : statusCode < 1000)
    (hit : cacheHit < 1000) (prompt : Option PromptTokens) (requestId : Option Str) :
    ∀ column ∈ RequestRecord.required
        { callRecord env.encodes eventId provider model usage cost statusCode prompt requestId with
          cacheHit := .int cacheHit, cacheSavedUsd := .float saved },
      Storable column.2 := by
  have text : ∀ s : Str, Storable (.str s) := fun s => ⟨rfl, rfl⟩
  have small : ∀ n : Nat, n < 1000 → Storable (.int n) := by
    intro n bound
    exact storable_int (by omega) (by omega)
  have segment : ∀ part : PromptTokens → Int, (∀ tokens : PromptTokens,
      part tokens ∈ [tokens.system, tokens.user, tokens.tools, tokens.rag, tokens.history]) →
      Storable (.int ((prompt.map part).getD 0)) := by
    intro part listed
    cases prompt with
    | none => exact small 0 (by omega)
    | some tokens =>
      obtain ⟨low, high⟩ := tokens.bounded _ (listed tokens)
      exact storable_int low high
  have user : Storable ((prompt.map fun tokens => Json.int tokens.user).getD usage.inputTokens) := by
    cases prompt with
    | none => exact counts _ (.head _)
    | some tokens =>
      obtain ⟨low, high⟩ := tokens.bounded tokens.user (.tail _ (.head _))
      exact storable_int low high
  simp only [usageCounts, List.forall_mem_cons, List.not_mem_nil, false_imp_iff, implies_true,
    and_true] at counts
  obtain ⟨input, output, reasoning, cacheRead, cacheWrite⟩ := counts
  simp only [RequestRecord.required, callRecord, List.forall_mem_cons, List.not_mem_nil,
    false_imp_iff, implies_true, and_true]
  exact ⟨text _, text _, text _, input, output, reasoning, cacheRead, cacheWrite,
    storable_float number, storable_float (fun other => by cases other), small statusCode status, text _,
    segment _ fun _ => .head _, user, segment _ fun _ => .tail _ (.tail _ (.head _)),
    segment _ fun _ => .tail _ (.tail _ (.tail _ (.head _))),
    segment _ fun _ => .tail _ (.tail _ (.tail _ (.tail _ (.head _)))), small cacheHit hit,
    storable_float savedNumber, small 0 (by omega)⟩

theorem Recordable.callRecord {provider : Provider} {model : Str} {usage : TokenUsage}
    {requestId : Option Str} (recordable : Recordable env provider model usage requestId) {cost : Flt}
    (defined : calculateCost env.tables env.today provider.name (.str model) usage = .ok cost)
    {statusCode : Nat} (status : statusCode < 1000) (prompt : Option PromptTokens) :
    Insertable env eventId
      (callRecord env.encodes eventId provider model usage cost statusCode prompt requestId) := by
  obtain ⟨number, same, isNumber⟩ := recordable.cost
  rw [defined] at same
  cases same
  have zero : Flt.fin 0 ≠ .nan := nofun
  exact {
    identified := rfl
    priced := pricingColumns_callRecord defined cost statusCode prompt requestId
    storable := storable_callRecord recordable.counts isNumber zero status (Nat.zero_lt_succ 999) prompt
      requestId
    noOthers := rfl
    encodable := Bool.and_eq_true_iff.mpr ⟨recordable.model, by
      simpa [Option.all_eq_true] using recordable.requestId⟩
    proxied := rfl }

theorem Recordable.hitRecord {provider : Provider} {model : Str} {usage : TokenUsage}
    (recordable : Recordable env provider model usage none) {saved : Flt}
    (defined : calculateCost env.tables env.today provider.name (.str model) usage = .ok saved)
    (prompt : Option PromptTokens) :
    Insertable env eventId (hitRecord env.encodes eventId provider model usage saved prompt) := by
  obtain ⟨number, same, isNumber⟩ := recordable.cost
  rw [defined] at same
  cases same
  have zero : Flt.fin 0 ≠ .nan := nofun
  have priced : pricingColumns env.tables env.today
      (Proxy.callRecord env.encodes eventId provider model usage (.fin 0) 200 prompt none) = .ok () :=
    pricingColumns_callRecord defined (.fin 0) 200 prompt none
  exact {
    identified := rfl
    priced := priced
    storable := storable_callRecord recordable.counts zero isNumber (show 200 < 1000 by omega)
      (show 1 < 1000 by omega) prompt none
    noOthers := rfl
    encodable := Bool.and_eq_true_iff.mpr ⟨recordable.model, rfl⟩
    proxied := rfl }

end

/-! ## Tracking an answer to its row -/

/-- The row of the answer is written, or under way. -/
def Generator.answered : Generator → Bool
  | .replays _ | .closed => true
  | _ => false

/-- The usage that the row is to have: that of the cached body, where chunks are made of it. -/
def Exchange.due (loads : Str → Option Json) (exchange : Exchange) : TokenUsage :=
  match exchange.received with
  | .replay cached _ => guardedUsage exchange.provider cached
  | _ => exchange.usage loads

structure RecordOf (env : Deployment) (exchange : Exchange) (record : RequestRecord) : Prop where
  insertable : Insertable env exchange.eventId record
  counts : recordCounts record = usageCounts (exchange.due env.loads)

inductive Writes (env : Deployment) (exchange : Exchange) : Task → Prop where
  | hit (json : Option Json) (prompt : Option PromptTokens) :
      exchange.due env.loads = guardedUsage exchange.provider json →
      Recordable env exchange.provider exchange.model (exchange.due env.loads) none →
      Writes env exchange (.logHit exchange.eventId exchange.provider exchange.model json prompt)
  | stream (statusCode : Nat) (buffered : List (List UInt8)) (prompt : Option PromptTokens)
      (requestId : Option Str) :
      exchange.due env.loads = streamUsage env.loads exchange.provider buffered →
      Recordable env exchange.provider exchange.model (exchange.due env.loads)
        (env.streamRequestId exchange.provider requestId buffered) →
      statusCode < 1000 →
      Writes env exchange (.logStream exchange.eventId exchange.provider exchange.model statusCode
        buffered prompt requestId)
  | viaWal (record : RequestRecord) : RecordOf env exchange record → Writes env exchange (.viaWal record)
  | enqueued (record : RequestRecord) : RecordOf env exchange record →
      Writes env exchange (.enqueued record)
  | direct (record : RequestRecord) : RecordOf env exchange record → Writes env exchange (.direct record)

def Task.eventId : Task → Option Str
  | .logHit eventId .. | .logStream eventId .. => some eventId
  | .viaWal record | .enqueued record | .direct record => record.eventId

/-- Every answer whose row is under way has it, or a task that brings it there; another has neither. -/
structure Tracked (env : Deployment) (s : ProxyState) : Prop where
  ids : (s.exchanges.map Exchange.eventId).Nodup
  filled : ∀ exchange ∈ s.exchanges, exchange.eventId ≠ []
  status : ∀ exchange ∈ s.exchanges, exchange.statusCode < 1000
  unique : (s.rows.map fun row => row.row.eventId).Nodup
  rows : ∀ row ∈ s.rows, ∀ exchange ∈ s.exchanges, row.row.eventId = exchange.eventId →
    exchange.generator.answered = true ∧ recordCounts row.record = usageCounts (exchange.due env.loads)
  tasks : ∀ task ∈ s.tasks, ∃ exchange ∈ s.exchanges,
    exchange.generator.answered = true ∧ Writes env exchange task
  wal : ∀ record ∈ s.wal, ∃ exchange ∈ s.exchanges,
    exchange.generator.answered = true ∧ RecordOf env exchange record
  pending : ∀ exchange ∈ s.exchanges, exchange.generator.answered = true →
    (∃ task ∈ s.tasks, Writes env exchange task) ∨ ∃ row ∈ s.rows, row.row.eventId = exchange.eventId
  whole : ∀ exchange ∈ s.exchanges, exchange.generator = .closed →
    usageCounts (exchange.usage env.loads) = usageCounts (exchange.due env.loads)

variable {env : Deployment} {record : RequestRecord} {s s' : ProxyState} {exchange : Exchange}
  {task : Option Task}

theorem Tracked.eq_of_eventId (tracked : Tracked env s) {other : Exchange}
    (member : exchange ∈ s.exchanges) (listed : other ∈ s.exchanges)
    (same : exchange.eventId = other.eventId) : exchange = other :=
  List.inj_on_of_nodup_map tracked.ids member listed same

theorem isFresh_iff {eventId : Str} : s.isFresh eventId = true ↔ eventId ≠ [] ∧
    (∀ exchange ∈ s.exchanges, exchange.eventId ≠ eventId) ∧
      ∀ row ∈ s.rows, row.row.eventId ≠ eventId := by
  simp [ProxyState.isFresh, and_assoc]

theorem forall_mem_none {p : Task → Prop} : ∀ task ∈ (none : Option Task), p task :=
  fun task member => absurd member (Option.not_mem_none task)

theorem Tracked.add (tracked : Tracked env s) (fresh : s.isFresh exchange.eventId = true)
    (status : exchange.statusCode < 1000)
    (writes : ∀ task' ∈ task, exchange.generator.answered = true ∧ Writes env exchange task')
    (written : exchange.generator.answered = true → task.isSome = true)
    (whole : exchange.generator = .closed →
      usageCounts (exchange.usage env.loads) = usageCounts (exchange.due env.loads)) :
    Tracked env (s.add exchange task) := by
  obtain ⟨filled, new, noRow⟩ := isFresh_iff.mp fresh
  have members : ∀ {p : Exchange → Prop}, (∀ other ∈ s.exchanges, p other) → p exchange →
      ∀ other ∈ (s.add exchange task).exchanges, p other := by
    intro p old here other member
    rcases List.mem_append.mp member with listed | last
    · exact old other listed
    · rw [List.mem_singleton.mp last]
      exact here
  have kept : ∀ other ∈ s.exchanges, other ∈ (s.add exchange task).exchanges :=
    fun other member => List.mem_append_left _ member
  have here : exchange ∈ (s.add exchange task).exchanges :=
    List.mem_append_right _ (List.mem_singleton.mpr rfl)
  exact {
    ids := by
      rw [ProxyState.add, List.map_append, List.map_singleton]
      refine tracked.ids.append (List.nodup_singleton _) ?_
      simp only [List.disjoint_singleton, List.mem_map, not_exists, not_and]
      exact new
    filled := members tracked.filled filled
    status := members tracked.status status
    unique := tracked.unique
    rows := fun row stored => members (tracked.rows row stored) fun same =>
      absurd same (noRow row stored)
    tasks := by
      intro task' member
      rcases List.mem_append.mp member with listed | last
      · obtain ⟨other, member, closed, writes⟩ := tracked.tasks task' listed
        exact ⟨other, kept other member, closed, writes⟩
      · exact ⟨exchange, here, writes task' (Option.mem_toList.mp last)⟩
    wal := by
      intro record member
      obtain ⟨other, member, closed, recordOf⟩ := tracked.wal record member
      exact ⟨other, kept other member, closed, recordOf⟩
    pending := by
      refine members (fun other member closed => ?_) fun closed => ?_
      · rcases tracked.pending other member closed with ⟨task', listed, writes⟩ | stored
        · exact .inl ⟨task', List.mem_append_left _ listed, writes⟩
        · exact .inr stored
      · obtain ⟨task', some⟩ := Option.isSome_iff_exists.mp (written closed)
        exact .inl ⟨task', List.mem_append_right _ (Option.mem_toList.mpr some), (writes task' some).2⟩
    whole := members tracked.whole whole }

theorem Tracked.replace (tracked : Tracked env s) {before : Exchange} (member : before ∈ s.exchanges)
    (isOpen : ¬ before.generator.answered = true) (same : exchange.eventId = before.eventId)
    (status : exchange.statusCode < 1000)
    (writes : ∀ task' ∈ task, exchange.generator.answered = true ∧ Writes env exchange task')
    (written : exchange.generator.answered = true → task.isSome = true)
    (whole : exchange.generator = .closed →
      usageCounts (exchange.usage env.loads) = usageCounts (exchange.due env.loads)) :
    Tracked env (s.replace exchange task) := by
  have members : ∀ {p : Exchange → Prop},
      (∀ other ∈ s.exchanges, other.eventId ≠ exchange.eventId → p other) → p exchange →
        ∀ other ∈ (s.replace exchange task).exchanges, p other := by
    intro p old here other member
    obtain ⟨origin, listed, rfl⟩ := List.mem_map.mp member
    split
    · exact here
    · next differs => exact old origin listed differs
  have kept : ∀ other ∈ s.exchanges, other.eventId ≠ exchange.eventId →
      other ∈ (s.replace exchange task).exchanges :=
    fun other listed differs => List.mem_map.mpr ⟨other, listed, if_neg differs⟩
  have here : exchange ∈ (s.replace exchange task).exchanges :=
    List.mem_map.mpr ⟨before, member, if_pos same.symm⟩
  -- whatever is written already belongs to another answer
  have others : ∀ other ∈ s.exchanges, other.generator.answered = true →
      other.eventId ≠ exchange.eventId := by
    intro other listed closed collides
    have equal := tracked.eq_of_eventId listed member (collides.trans same)
    exact isOpen (equal ▸ closed)
  exact {
    ids := by
      have unchanged : (s.replace exchange task).exchanges.map Exchange.eventId =
          s.exchanges.map Exchange.eventId := by
        rw [ProxyState.replace, List.map_map]
        refine List.map_congr_left fun other _ => ?_
        rw [Function.comp_apply]
        split
        · next collides => exact collides.symm
        · rfl
      rw [unchanged]
      exact tracked.ids
    filled := members (fun other listed _ => tracked.filled other listed)
      (same ▸ tracked.filled before member)
    status := members (fun other listed _ => tracked.status other listed) status
    unique := tracked.unique
    rows := by
      intro row stored
      refine members (fun other listed _ => tracked.rows row stored other listed) fun collides => ?_
      exact absurd (tracked.rows row stored before member (collides.trans same)).1 isOpen
    tasks := by
      intro task' listed
      rcases List.mem_append.mp listed with old | last
      · obtain ⟨other, listed, closed, writes⟩ := tracked.tasks task' old
        exact ⟨other, kept other listed (others other listed closed), closed, writes⟩
      · exact ⟨exchange, here, writes task' (Option.mem_toList.mp last)⟩
    wal := by
      intro record listed
      obtain ⟨other, listed, closed, recordOf⟩ := tracked.wal record listed
      exact ⟨other, kept other listed (others other listed closed), closed, recordOf⟩
    pending := by
      refine members (fun other listed _ closed => ?_) fun closed => ?_
      · rcases tracked.pending other listed closed with ⟨task', listed, writes⟩ | stored
        · exact .inl ⟨task', List.mem_append_left _ listed, writes⟩
        · exact .inr stored
      · obtain ⟨task', some⟩ := Option.isSome_iff_exists.mp (written closed)
        exact .inl ⟨task', List.mem_append_right _ (Option.mem_toList.mpr some), (writes task' some).2⟩
    whole := members (fun other listed _ => tracked.whole other listed) whole }

/-! ### Replays -/

/-- The same answer, of which other chunks have been taken. -/
structure SameAnswer (env : Deployment) (before after : Exchange) : Prop where
  eventId : after.eventId = before.eventId
  provider : after.provider = before.provider
  model : after.model = before.model
  due : after.due env.loads = before.due env.loads

theorem SameAnswer.refl (exchange : Exchange) : SameAnswer env exchange exchange := ⟨rfl, rfl, rfl, rfl⟩

theorem SameAnswer.recordOf {before : Exchange} (same : SameAnswer env before exchange)
    (recordOf : RecordOf env before record) : RecordOf env exchange record where
  insertable := same.eventId ▸ recordOf.insertable
  counts := same.due ▸ recordOf.counts

theorem SameAnswer.writes {before : Exchange} {done : Task} (same : SameAnswer env before exchange)
    (writes : Writes env before done) : Writes env exchange done := by
  cases writes with
  | hit json prompt due recordable =>
    rw [← same.eventId, ← same.provider, ← same.model]
    rw [← same.due, ← same.provider] at due
    rw [← same.due, ← same.provider, ← same.model] at recordable
    exact .hit json prompt due recordable
  | stream statusCode buffered prompt requestId due recordable status =>
    rw [← same.eventId, ← same.provider, ← same.model]
    rw [← same.due, ← same.provider] at due
    rw [← same.due, ← same.provider, ← same.model] at recordable
    exact .stream statusCode buffered prompt requestId due recordable status
  | viaWal record recordOf => exact .viaWal record (same.recordOf recordOf)
  | enqueued record recordOf => exact .enqueued record (same.recordOf recordOf)
  | direct record recordOf => exact .direct record (same.recordOf recordOf)

/-- A replay goes on, or its caller is done with it; its row is written meanwhile. -/
theorem Tracked.replay_on (tracked : Tracked env s) {before : Exchange} (member : before ∈ s.exchanges)
    (answered : before.generator.answered = true) (answered' : exchange.generator.answered = true)
    (same : SameAnswer env before exchange) (status : exchange.statusCode = before.statusCode)
    (whole : exchange.generator = .closed →
      usageCounts (exchange.usage env.loads) = usageCounts (exchange.due env.loads)) :
    Tracked env (s.replace exchange none) := by
  -- each answer has its successor, and is the successor of one
  have onward : ∀ other ∈ s.exchanges, ∃ next ∈ (s.replace exchange none).exchanges,
      SameAnswer env other next ∧ (other.generator.answered = true → next.generator.answered = true) := by
    intro other listed
    by_cases its : other.eventId = exchange.eventId
    · obtain rfl := tracked.eq_of_eventId listed member (its.trans same.eventId)
      exact ⟨exchange, List.mem_map.mpr ⟨other, listed, if_pos its⟩, same, fun _ => answered'⟩
    · exact ⟨other, List.mem_map.mpr ⟨other, listed, if_neg its⟩, .refl other, id⟩
  have origin : ∀ next ∈ (s.replace exchange none).exchanges, ∃ other ∈ s.exchanges,
      SameAnswer env other next ∧ next.statusCode = other.statusCode ∧
        (next = other ∨ next = exchange) ∧
          (next.generator.answered = true → other.generator.answered = true) ∧
            (other.generator.answered = true → next.generator.answered = true) := by
    intro next listed
    obtain ⟨other, mapped, rfl⟩ := List.mem_map.mp listed
    split
    · next its =>
      obtain rfl := tracked.eq_of_eventId mapped member (its.trans same.eventId)
      exact ⟨other, mapped, same, status, .inr rfl, fun _ => answered, fun _ => answered'⟩
    · exact ⟨other, mapped, .refl other, rfl, .inl rfl, id, id⟩
  have noTask : (s.replace exchange none).tasks = s.tasks := List.append_nil _
  exact {
    ids := by
      have unchanged : (s.replace exchange none).exchanges.map Exchange.eventId =
          s.exchanges.map Exchange.eventId := by
        rw [ProxyState.replace, List.map_map]
        refine List.map_congr_left fun other _ => ?_
        rw [Function.comp_apply]
        split
        · next collides => exact collides.symm
        · rfl
      rw [unchanged]
      exact tracked.ids
    filled := by
      intro next listed
      obtain ⟨other, listed, same, -⟩ := origin next listed
      rw [same.eventId]
      exact tracked.filled other listed
    status := by
      intro next listed
      obtain ⟨other, listed, -, status, -⟩ := origin next listed
      rw [status]
      exact tracked.status other listed
    unique := tracked.unique
    rows := by
      intro row stored next listed its
      obtain ⟨other, listed, same, -, -, -, answered⟩ := origin next listed
      obtain ⟨isAnswered, counts⟩ := tracked.rows row stored other listed (its.trans same.eventId)
      exact ⟨answered isAnswered, by rw [same.due]; exact counts⟩
    tasks := by
      intro task listed
      rw [noTask] at listed
      obtain ⟨other, listed, isAnswered, writes⟩ := tracked.tasks task listed
      obtain ⟨next, listed, same, answered⟩ := onward other listed
      exact ⟨next, listed, answered isAnswered, same.writes writes⟩
    wal := by
      intro record listed
      obtain ⟨other, listed, isAnswered, recordOf⟩ := tracked.wal record listed
      obtain ⟨next, listed, same, answered⟩ := onward other listed
      exact ⟨next, listed, answered isAnswered, same.recordOf recordOf⟩
    pending := by
      intro next listed isAnswered
      obtain ⟨other, listed, same, -, -, answered, -⟩ := origin next listed
      rw [noTask, same.eventId]
      obtain ⟨task, listed, writes⟩ | stored := tracked.pending other listed (answered isAnswered)
      · exact .inl ⟨task, listed, same.writes writes⟩
      · exact .inr stored
    whole := by
      intro next listed closed
      obtain ⟨other, listed, -, -, rfl | rfl, -⟩ := origin next listed
      · exact tracked.whole next listed closed
      · exact whole closed }

/-! ### Tasks -/

theorem Tracked.persist (tracked : Tracked env s) (member : exchange ∈ s.exchanges)
    (closed : exchange.generator.answered = true) (recordOf : RecordOf env exchange record) :
    ∃ rows, env.persist s.rows record = .ok rows ∧ Tracked env { s with rows } ∧
      ∃ row ∈ rows, row.row.eventId = exchange.eventId := by
  have filled := tracked.filled exchange member
  rcases recordOf.insertable.persist filled s.rows with
    ⟨kept, stored⟩ | ⟨absent, row, inserted, identified, recorded⟩
  · exact ⟨s.rows, kept, tracked, stored⟩
  · refine ⟨s.rows ++ [row], inserted, ?_, row, ?_, identified⟩
    · exact {
        tracked with
        unique := by
          rw [List.map_append, List.map_singleton]
          refine tracked.unique.append (List.nodup_singleton _) ?_
          simp only [List.disjoint_singleton, List.mem_map, not_exists, not_and, identified]
          exact absent
        rows := by
          intro other stored owner listed same
          rcases List.mem_append.mp stored with old | last
          · exact tracked.rows other old owner listed same
          · rw [List.mem_singleton] at last
            subst last
            have equal := tracked.eq_of_eventId listed member (same.symm.trans identified)
            subst equal
            rw [recorded]
            exact ⟨closed, recordOf.counts⟩
        pending := by
          intro owner listed isClosed
          rcases tracked.pending owner listed isClosed with task | ⟨other, stored, same⟩
          · exact .inl task
          · exact .inr ⟨other, List.mem_append_left _ stored, same⟩ }
    · exact List.mem_append_right _ (List.mem_singleton.mpr rfl)

theorem Writes.eventId {done : Task} (writes : Writes env exchange done) :
    done.eventId = some exchange.eventId := by
  cases writes with
  | hit => rfl
  | stream => rfl
  | viaWal record recordOf => exact recordOf.insertable.identified
  | enqueued record recordOf => exact recordOf.insertable.identified
  | direct record recordOf => exact recordOf.insertable.identified

/-- A task is done: another one takes its place, or its row is there. -/
theorem Tracked.settle (tracked : Tracked env s) {front back : List Task} {done : Task}
    (split : s.tasks = front ++ done :: back) (member : exchange ∈ s.exchanges)
    (closed : exchange.generator.answered = true) (writing : Writes env exchange done)
    (next : Option Task) (writes : ∀ task ∈ next, Writes env exchange task)
    (written : next = none → ∃ row ∈ s.rows, row.row.eventId = exchange.eventId) :
    Tracked env { s with tasks := front ++ back ++ next.toList } := by
  have kept : ∀ other ∈ front ++ back, other ∈ s.tasks := by
    intro other listed
    rw [split]
    rcases List.mem_append.mp listed with ahead | behind
    · exact List.mem_append_left _ ahead
    · exact List.mem_append_right _ (.tail _ behind)
  exact {
    tracked with
    tasks := by
      intro other listed
      rcases List.mem_append.mp listed with old | last
      · exact tracked.tasks other (kept other old)
      · exact ⟨exchange, member, closed, writes other (Option.mem_toList.mp last)⟩
    pending := by
      intro owner listed isClosed
      rcases tracked.pending owner listed isClosed with ⟨other, doing, owned⟩ | stored
      · rw [split] at doing
        rcases List.mem_append.mp doing with ahead | behind
        · exact .inl ⟨other, List.mem_append_left _ (List.mem_append_left _ ahead), owned⟩
        · rcases List.mem_cons.mp behind with rfl | later
          · -- the answer of the task that is done
            have same := Option.some.inj (owned.eventId.symm.trans writing.eventId)
            rw [tracked.eq_of_eventId listed member same]
            cases next with
            | none => exact .inr (written rfl)
            | some task => exact .inl ⟨task, List.mem_append_right _ (.head _), writes task rfl⟩
          · exact .inl ⟨other, List.mem_append_left _ (List.mem_append_right _ later), owned⟩
      · exact .inr stored }

theorem Tracked.goOn (tracked : Tracked env s) {front back : List Task} {done next : Task}
    (split : s.tasks = front ++ done :: back) (member : exchange ∈ s.exchanges)
    (closed : exchange.generator.answered = true) (writing : Writes env exchange done)
    (writes : Writes env exchange next) :
    Tracked env { s with tasks := front ++ back ++ [next] } := by
  refine tracked.settle split member closed writing (some next) (fun task same => ?_) nofun
  cases same
  exact writes

theorem Tracked.finish (tracked : Tracked env s) {front back : List Task} {done : Task}
    (split : s.tasks = front ++ done :: back) (member : exchange ∈ s.exchanges)
    (closed : exchange.generator.answered = true) (writing : Writes env exchange done)
    (stored : ∃ row ∈ s.rows, row.row.eventId = exchange.eventId) :
    Tracked env { s with tasks := front ++ back } := by
  have settled := tracked.settle split member closed writing none forall_mem_none fun _ => stored
  rwa [Option.toList_none, List.append_nil] at settled

theorem Tracked.appendWal (tracked : Tracked env s) (member : exchange ∈ s.exchanges)
    (closed : exchange.generator.answered = true) (recordOf : RecordOf env exchange record) :
    Tracked env { s with wal := s.wal ++ [record] } :=
  { tracked with
    wal := by
      intro other listed
      rcases List.mem_append.mp listed with old | last
      · exact tracked.wal other old
      · rw [List.mem_singleton.mp last]
        exact ⟨exchange, member, closed, recordOf⟩ }

theorem RecordOf.logTask (recordOf : RecordOf env exchange record) :
    Writes env exchange (env.logTask record) := by
  rw [Deployment.logTask]
  split
  · exact .viaWal record recordOf
  · exact .direct record recordOf

theorem Tracked.runTask (tracked : Tracked env s) {front back : List Task} {done : Task}
    (split : s.tasks = front ++ done :: back) (enqueues : Bool) :
    Tracked env (env.runTask s done (front ++ back) enqueues) := by
  obtain ⟨exchange, member, closed, writes⟩ :=
    tracked.tasks done (by rw [split]; exact List.mem_append_right _ (.head _))
  have writing := writes
  cases writes with
  | hit json prompt received recordable =>
    rw [received] at recordable
    obtain ⟨saved, defined, -⟩ := recordable.cost
    have recordOf : RecordOf env exchange (hitRecord env.encodes exchange.eventId exchange.provider exchange.model
        (guardedUsage exchange.provider json) saved prompt) :=
      ⟨recordable.hitRecord defined prompt, by rw [received]; rfl⟩
    simp only [Deployment.runTask, defined]
    split
    · exact (tracked.appendWal member closed recordOf).goOn split member closed writing
        (.enqueued _ recordOf)
    · exact tracked.goOn split member closed writing (.direct _ recordOf)
  | stream statusCode buffered prompt requestId received recordable status =>
    rw [received] at recordable
    obtain ⟨cost, defined, -⟩ := recordable.cost
    have recordOf : RecordOf env exchange (callRecord env.encodes exchange.eventId exchange.provider
        exchange.model (streamUsage env.loads exchange.provider buffered) cost statusCode prompt
        (env.streamRequestId exchange.provider requestId buffered)) :=
      ⟨recordable.callRecord defined status prompt, by rw [received]; rfl⟩
    simp only [Deployment.runTask, defined]
    exact tracked.goOn split member closed writing recordOf.logTask
  | viaWal record recordOf =>
    simp only [Deployment.runTask]
    refine (tracked.appendWal member closed recordOf).goOn split member closed writing ?_
    cases enqueues with
    | true => exact .enqueued record recordOf
    | false => exact .direct record recordOf
  | enqueued record recordOf =>
    obtain ⟨rows, inserted, stored, row⟩ := tracked.persist member closed recordOf
    simp only [Deployment.runTask, inserted]
    exact stored.finish split member closed writing row
  | direct record recordOf =>
    obtain ⟨rows, inserted, stored, row⟩ := tracked.persist member closed recordOf
    simp only [Deployment.runTask, inserted]
    exact stored.finish split member closed writing row

/-! ## Steps -/

theorem stream_some {eventId : Str} (found : s.stream eventId = some exchange) :
    exchange ∈ s.exchanges ∧ exchange.eventId = eventId ∧ exchange.generator ≠ .closed := by
  have meets := List.find?_some found
  rw [Bool.and_eq_true, decide_eq_true_eq, decide_eq_true_eq] at meets
  exact ⟨List.mem_of_find?_eq_some found, meets.1, meets.2⟩

theorem Tracked.answer (tracked : Tracked env s) {eventId : Str} {provider : Provider} {model : Str}
    {response : UpstreamResponse} {prompt : Option PromptTokens}
    (accounted : Accounted env s (.answer eventId provider model response prompt))
    (fresh : s.isFresh eventId = true) (status : response.statusCode < 1000) :
    Tracked env (env.answer s eventId provider model response prompt) := by
  rw [Deployment.answer]
  split
  · exact tracked
  · next answered recorded answers =>
    have recordable := accounted ⟨_, answers⟩
    simp only [handleNonStreaming, bind_eq_ok, pure, Except.pure, Except.ok.injEq, Prod.mk.injEq]
      at answers
    obtain ⟨cost, defined, -, rfl⟩ := answers
    refine tracked.add fresh status (fun task some => ?_) (fun _ => rfl) fun _ => rfl
    cases some
    exact ⟨rfl, RecordOf.logTask ⟨recordable.callRecord defined status prompt, rfl⟩⟩

theorem Tracked.hit (tracked : Tracked env s) {eventId : Str} {provider : Provider} {model body : Str}
    {streaming : Bool} {now : Int} {prompt : Option PromptTokens}
    (recordable : Recordable env provider model (guardedUsage provider (env.loads body)) none)
    (fresh : s.isFresh eventId = true) :
    Tracked env (env.hit s eventId provider model body streaming now prompt) := by
  have status : 200 < 1000 := by omega
  unfold Deployment.hit
  cases streaming with
  | true =>
    refine tracked.add fresh status (fun task some => ?_) (fun _ => rfl) nofun
    cases some
    exact ⟨rfl, .hit _ prompt rfl recordable⟩
  | false =>
    refine tracked.add fresh status (fun task some => ?_) (fun _ => rfl) fun _ => rfl
    cases some
    exact ⟨rfl, .hit _ prompt rfl recordable⟩

theorem Tracked.demand (tracked : Tracked env s) {eventId : Str}
    (stepped : Deployment.demand s eventId = some s') : Tracked env s' := by
  obtain ⟨exchange, found, stepped⟩ := Option.bind_eq_some_iff.mp stepped
  obtain ⟨member, -, -⟩ := stream_some found
  split at stepped
  · next unread =>
    cases stepped
    exact tracked.replace member (by rw [unread]; exact Bool.false_ne_true) rfl
      (tracked.status exchange member) forall_mem_none nofun nofun
  · next yielded =>
    cases stepped
    exact tracked.replace member (by rw [yielded]; exact Bool.false_ne_true) rfl
      (tracked.status exchange member) forall_mem_none nofun nofun
  · next replays received =>
    cases stepped
    exact tracked.replay_on member (by rw [replays]; rfl) rfl
      ⟨rfl, rfl, rfl, by simp only [Exchange.due, received]⟩ rfl nofun
  · cases stepped

theorem Tracked.chunk (tracked : Tracked env s) {eventId : Str} {bytes : List UInt8}
    (stepped : Deployment.chunk s eventId bytes = some s') : Tracked env s' := by
  obtain ⟨exchange, found, stepped⟩ := Option.bind_eq_some_iff.mp stepped
  obtain ⟨member, -, -⟩ := stream_some found
  split at stepped
  · next reading _ =>
    cases stepped
    exact tracked.replace member (by rw [reading]; exact Bool.false_ne_true) rfl
      (tracked.status exchange member) forall_mem_none nofun nofun
  · cases stepped

/-- The `finally` block, where the whole usage is in the buffer. -/
theorem Tracked.log (tracked : Tracked env s) (member : exchange ∈ s.exchanges)
    {chunks : List (List UInt8)} (received : exchange.received = .chunks chunks)
    (isOpen : ¬ exchange.generator.answered = true) {acloses : Bool}
    (closes : ClosesWhole env exchange acloses) (prompt : Option PromptTokens) :
    Tracked env (s.replace { exchange with generator := .closed }
      (exchange.logStream (exchange.buffered chunks) acloses prompt)) := by
  have due : Exchange.due env.loads { exchange with generator := .closed } =
      streamUsage env.loads exchange.provider chunks := by
    simp only [Exchange.due, Exchange.usage, received, Received.usage]
  have usage : exchange.usage env.loads = streamUsage env.loads exchange.provider chunks := by
    simp only [Exchange.usage, received, Received.usage]
  rw [Exchange.logStream, if_pos (closes.acloses chunks received)]
  refine tracked.replace member isOpen rfl (tracked.status exchange member) (fun task some => ?_)
    (fun _ => rfl) fun _ => ?_
  · cases some
    refine ⟨rfl, .stream _ _ prompt _ (due.trans (closes.buffered chunks received).symm) ?_
      (tracked.status exchange member)⟩
    rw [due, ← usage]
    exact closes.recordable chunks received
  · simp only [Exchange.due, Exchange.usage, received]

theorem Tracked.close (tracked : Tracked env s) {eventId : Str} {acloses : Bool}
    {prompt : Option PromptTokens} (accounted : Accounted env s (.close eventId acloses prompt))
    (stepped : Deployment.close s eventId acloses prompt = some s') : Tracked env s' := by
  obtain ⟨exchange, found, stepped⟩ := Option.bind_eq_some_iff.mp stepped
  obtain ⟨member, -, -⟩ := stream_some found
  have closes := accounted exchange found
  split at stepped
  · next unread => exact absurd unread closes.iterated
  · next replays =>
    cases stepped
    refine tracked.replay_on member (by rw [replays]; rfl) rfl ⟨rfl, rfl, rfl, rfl⟩ rfl fun _ => ?_
    simp only [Exchange.due, Exchange.usage]
    cases received : exchange.received with
    | replay cached chunks => exact closes.replayed cached chunks received
    | _ => rfl
  · next chunks reading received =>
    cases stepped
    have log := tracked.log member received (by rw [reading]; exact Bool.false_ne_true) closes prompt
    rwa [Exchange.buffered, reading, if_neg nofun] at log
  · next chunks yielded received =>
    cases stepped
    have log := tracked.log member received (by rw [yielded]; exact Bool.false_ne_true) closes prompt
    rwa [Exchange.buffered, if_pos yielded] at log
  · cases stepped

theorem Tracked.run (tracked : Tracked env s) {index : Nat} {enqueues : Bool}
    (stepped : env.run s index enqueues = some s') : Tracked env s' := by
  rw [Deployment.run] at stepped
  split at stepped
  · next done rest split =>
    cases stepped
    refine tracked.runTask ?_ enqueues
    rw [← split, List.take_append_drop]
  · cases stepped

theorem Tracked.replay (tracked : Tracked env s) {index : Nat}
    (stepped : env.replay s index = some s') : Tracked env s' := by
  obtain ⟨record, found, rfl⟩ := Option.map_eq_some_iff.mp stepped
  obtain ⟨exchange, member, closed, recordOf⟩ := tracked.wal record (List.mem_of_getElem? found)
  obtain ⟨rows, inserted, stored, -⟩ := tracked.persist member closed recordOf
  rw [inserted]
  exact stored

theorem machine_preserves (env : Deployment) :
    env.machine.Preserves (Accounted env) (Tracked env) := by
  intro s event s' tracked accounted stepped
  cases event with
  | hit eventId provider model body streaming now prompt =>
    obtain ⟨fresh, same⟩ := Option.ite_none_right_eq_some.mp stepped
    cases same
    exact tracked.hit accounted fresh
  | answer eventId provider model response prompt =>
    obtain ⟨⟨fresh, status⟩, same⟩ := Option.ite_none_right_eq_some.mp stepped
    cases same
    exact tracked.answer accounted fresh status
  | openStream eventId provider model statusCode headers =>
    obtain ⟨⟨fresh, status⟩, same⟩ := Option.ite_none_right_eq_some.mp stepped
    cases same
    exact tracked.add fresh (show statusCode < 1000 by omega) forall_mem_none nofun nofun
  | demand eventId => exact tracked.demand stepped
  | chunk eventId bytes => exact tracked.chunk stepped
  | close eventId acloses prompt => exact tracked.close accounted stepped
  | run index enqueues => exact tracked.run stepped
  | replay index => exact tracked.replay stepped

/-! ## Runs -/

theorem Tracked.of_rows {rows : List SavedRow}
    (unique : (rows.map fun row => row.row.eventId).Nodup) : Tracked env { rows } where
  ids := List.nodup_nil
  filled := fun _ listed => absurd listed List.not_mem_nil
  status := fun _ listed => absurd listed List.not_mem_nil
  unique := unique
  rows := fun _ _ _ listed => absurd listed List.not_mem_nil
  tasks := fun _ listed => absurd listed List.not_mem_nil
  wal := fun _ listed => absurd listed List.not_mem_nil
  pending := fun _ listed => absurd listed List.not_mem_nil
  whole := fun _ listed => absurd listed List.not_mem_nil

theorem filter_eventId {rows : List SavedRow} (unique : (rows.map fun row => row.row.eventId).Nodup)
    {row : SavedRow} (stored : row ∈ rows) :
    (rows.filter fun other => other.row.eventId = row.row.eventId) = [row] := by
  obtain ⟨front, back, rfl⟩ := List.append_of_mem stored
  rw [List.map_append, List.map_cons, List.nodup_append] at unique
  obtain ⟨-, behind, apart⟩ := unique
  rw [List.nodup_cons] at behind
  have noneBefore : front.filter (fun other => other.row.eventId = row.row.eventId) = [] := by
    rw [List.filter_eq_nil_iff]
    intro other listed same
    exact apart _ (List.mem_map_of_mem listed) _ (.head _) (of_decide_eq_true same)
  have noneBehind : back.filter (fun other => other.row.eventId = row.row.eventId) = [] := by
    rw [List.filter_eq_nil_iff]
    intro other listed same
    exact behind.1 (List.mem_map.mpr ⟨other, listed, of_decide_eq_true same⟩)
  have here : decide (row.row.eventId = row.row.eventId) = true := decide_eq_true rfl
  rw [List.filter_append, noneBefore, List.filter_cons, if_pos here, noneBehind, List.nil_append]

theorem Tracked.correlated (tracked : Tracked env s) : Correlated env.loads s := by
  intro idle exchange member closed
  have answered : exchange.generator.answered = true := by
    rw [closed]
    rfl
  rcases tracked.pending exchange member answered with ⟨task, listed, -⟩ | ⟨row, stored, same⟩
  · rw [idle] at listed
    cases listed
  · refine ⟨row, ?_, (tracked.rows row stored exchange member same).2.trans
      (tracked.whole exchange member closed).symm⟩
    rw [← same]
    exact filter_eventId tracked.unique stored

def promptJson : Str := "\x7b\"usage\":\x7b\"prompt_tokens\":5\x7d\x7d"

def promptLoads (text : Str) : Option Json :=
  if text = promptJson then some (.obj [("usage", .obj [("prompt_tokens", .int 5)])]) else none

theorem promptLoads_rejects (front rest : Str)
    (ends : ∀ c, front.getLast? = some c → c = '\r' ∨ c = '\n') (field : Str)
    (listed : field ∈ ["data:".toList, "event:".toList]) :
    promptLoads (front ++ (field ++ rest)) = none := by
  refine if_neg fun same => ?_
  have oneLine : (promptJson.all fun c => c ≠ '\r' && c ≠ '\n') = true := by decide
  cases last : front.getLast? with
  | some c =>
    have inText : c ∈ promptJson := by
      rw [← same]
      exact List.mem_append_left _ (List.mem_of_getLast? last)
    have plain := List.all_eq_true.mp oneLine c inText
    obtain rfl | rfl := ends c last
    · exact absurd plain (by decide)
    · exact absurd plain (by decide)
  | none =>
    rw [List.getLast?_eq_none_iff.mp last, List.nil_append] at same
    have heads : ∀ field ∈ ["data:".toList, "event:".toList],
        field ≠ [] ∧ field.head? ≠ promptJson.head? := by decide
    obtain ⟨filled, head⟩ := heads field listed
    refine head ?_
    rw [← same, List.head?_append_of_ne_nil _ filled]

def promptModule : JsonModule where
  loads := promptLoads
  floatText _ := []
  printable _ := printable_nil
  rejects := promptLoads_rejects

def plainDeployment : Deployment where
  tables := fun _ => []
  today := 0
  json := promptModule
  encodes := fun _ => true
  hasWal := false

def promptChunk : List UInt8 := utf8 ("data: " ++ promptJson ++ "\n\n")

theorem promptChunk_usage :
    streamUsage promptLoads .openai [promptChunk] = { inputTokens := .int 5 } := by
  have buffer : rawBuffer [promptChunk] = "data: " ++ promptJson ++ "\n\n" := by
    rw [rawBuffer, List.map_singleton, promptChunk, decodeIgnore_utf8, List.flatten_singleton]
  rw [streamUsage, buffer]
  rfl

end BurnLens.Proxy
