import BurnLens.Agents.Entities
import BurnLens.Library.GroupBy
import BurnLens.Library.Paging
import BurnLens.Storage.LinksAcyclic
import Mathlib.Data.List.Lex
import Mathlib.Data.Prod.Lex

/-! # The graph of a workflow run

`get_workflow_run_graph`: the requests of a workflow run, a page of them at a time, with the agent
runs and the links that connect them, and what the linked and the unlinked of them cost.
-/

namespace BurnLens.Agents

open Library Storage Relation

/-- The tables that the queries read, in one transaction. -/
structure GraphTables where
  requests : List LinkedRow
  runs : List AgentRun
  workflowRuns : List WorkflowRun

namespace GraphTables

variable (db : GraphTables) (workflowRunId workspaceId : Str)

def runTree : List Str :=
  let runs := db.runs.filter fun run => run.workspaceId = workspaceId
  closure (fun parent id => runs.any fun run => run.runId = id && run.parentRunId = some parent)
    (runs.map AgentRun.runId)
    ((runs.filter fun run => run.workflowRunId = some workflowRunId).map AgentRun.runId).dedup

def selects (row : LinkedRow) : Bool :=
  row.workspaceId = some workspaceId &&
    (row.workflowRunId = some workflowRunId ||
      (row.runId.map fun id => decide (id ∈ db.runTree workflowRunId workspaceId)).getD false)

def selected : List LinkedRow := db.requests.filter (db.selects workflowRunId workspaceId)

def links : List Link := requestLinks db.requests workspaceId

/-- `source IN (SELECT event_id FROM selected)`, or the target. -/
def isSelected (eventId : Str) : Bool :=
  (db.selected workflowRunId workspaceId).any fun row => row.eventId = eventId

/-- The walk from the target of the link comes to its source. -/
def isInvalid (link : Link) : Bool := link.source ∈ walk (db.links workspaceId) link.target

def isStored (eventId : Str) : Bool :=
  db.requests.any fun row => row.eventId = eventId && row.workspaceId = some workspaceId

def selectedLinks : List Link :=
  (db.links workspaceId).filter fun link => db.isSelected workflowRunId workspaceId link.source

def validLinks : List Link :=
  (db.selectedLinks workflowRunId workspaceId).filter fun link =>
    db.isStored workspaceId link.target && !db.isInvalid workspaceId link

end GraphTables

/-- What `SUM(cost_usd)` adds. -/
def cost (row : LinkedRow) : ℚ :=
  match row.row.columns.getD "cost_usd" .null with
  | .float (.fin x) => x
  | .int n => n
  | _ => 0

def pricingClass (row : LinkedRow) : Option Str := textColumn row.row.columns "pricing_class"

def knownPricing : List Str := ["calculated", "estimated", "unpriced"]

structure Totals where
  requestCount : Nat
  ledgerCostUsd : ℚ
  linkedCostUsd : ℚ
  unpricedCount : Nat
  unknownPricingCount : Nat
  unresolvedCount : Nat
  invalidCount : Nat
  unlinkedCostUsd : ℚ
  costComplete : Bool

def GraphTables.totals (db : GraphTables) (workflowRunId workspaceId : Str) : Totals :=
  let selected := db.selected workflowRunId workspaceId
  let links := db.selectedLinks workflowRunId workspaceId
  let isLinked (row : LinkedRow) : Bool :=
    (db.validLinks workflowRunId workspaceId).any fun link => link.source = row.eventId
  let ledgerCost := (selected.map cost).sum
  let linkedCost := (selected.map fun row => if isLinked row then cost row else 0).sum
  let unpriced := selected.countP fun row => pricingClass row = some "unpriced"
  let unknownPricing := selected.countP fun row =>
    ((pricingClass row).map fun name : Str => decide (name ∉ knownPricing)).getD true
  { requestCount := selected.length
    ledgerCostUsd := ledgerCost
    linkedCostUsd := linkedCost
    unpricedCount := unpriced
    unknownPricingCount := unknownPricing
    unresolvedCount := links.countP fun link => !db.isStored workspaceId link.target
    invalidCount := links.countP fun link => db.isInvalid workspaceId link
    unlinkedCostUsd := ledgerCost - linkedCost
    costComplete := unpriced = 0 && unknownPricing = 0 }

/-! ## Pages -/

/-- `ORDER BY timestamp, event_id, id`. -/
def ledgerKey (row : LinkedRow) : Str ×ₗ (Str ×ₗ Nat) :=
  toLex ((textColumn row.row.columns "timestamp").getD [], toLex (row.eventId, row.row.id))

inductive Resolution where
  | invalid
  | unresolved
  | outsideSelection
  | outsidePage
  | resolved
deriving DecidableEq

structure Reference where
  link : Link
  resolution : Resolution

inductive EndpointType where
  | workflowRun
  | agentRun
  | request
deriving DecidableEq

inductive EdgeKind where
  | contains
  | childRun
  | relation (kind : RelationField)
deriving DecidableEq

structure Edge where
  source : Str
  sourceType : EndpointType
  target : Str
  targetType : EndpointType
  kind : EdgeKind

structure Pagination where
  limit : Nat
  offset : Nat
  truncated : Bool
  agentRunsTruncated : Bool

structure RunGraph where
  workspaceId : Str
  workflowRun : WorkflowRun
  agentRuns : List AgentRun
  requests : List LinkedRow
  edges : List Edge
  references : List Reference
  totals : Totals
  pagination : Pagination

/-- How each query of the call puts its rows in order. -/
structure Execution where
  requests : OrderBy ledgerKey
  references : OrderBy fun link : Link => toLex (link.source, link.kind.name)
  runs : OrderBy AgentRun.runId

namespace GraphTables

variable (db : GraphTables) (workflowRunId workspaceId : Str)

def resolution (pageIds : List Str) (link : Link) : Resolution :=
  if db.isInvalid workspaceId link then .invalid
  else if !db.isStored workspaceId link.target then .unresolved
  else if !db.isSelected workflowRunId workspaceId link.target then .outsideSelection
  else if link.target ∉ pageIds then .outsidePage
  else .resolved

/-- The edges of a run: from the workflow run, and from its parent. -/
def runEdges (runIds : List Str) (run : AgentRun) : List Edge :=
  (if run.workflowRunId = some workflowRunId then
    [⟨workflowRunId, .workflowRun, run.runId, .agentRun, .contains⟩] else []) ++
  match run.parentRunId with
  | none => []
  | some parent =>
    if parent ∈ runIds then [⟨parent, .agentRun, run.runId, .agentRun, .childRun⟩] else []

def requestEdges (runIds : List Str) (node : LinkedRow) : List Edge :=
  if node.eventId = [] then []
  else match node.runId.filter fun id => id ∈ runIds with
  | some runId => [⟨runId, .agentRun, node.eventId, .request, .contains⟩]
  | none =>
    if node.workflowRunId = some workflowRunId then
      [⟨workflowRunId, .workflowRun, node.eventId, .request, .contains⟩]
    else []

def referenceEdges (reference : Reference) : List Edge :=
  if reference.resolution = .resolved then
    [⟨reference.link.target, .request, reference.link.source, .request,
      .relation reference.link.kind⟩]
  else []

def runGraph (execution : Execution) (workflow : WorkflowRun) (limit offset : Nat) : RunGraph :=
  let totals := db.totals workflowRunId workspaceId
  let selected := db.selected workflowRunId workspaceId
  let nodes := page limit offset (execution.requests.order selected)
  let pageIds := nodes.map LinkedRow.eventId
  let links := execution.references.order
    ((db.links workspaceId).filter fun link => link.source ∈ pageIds)
  let references := links.map fun link =>
    ⟨link, db.resolution workflowRunId workspaceId pageIds link⟩
  let agentRuns := (execution.runs.order (db.runs.filter fun run =>
    run.workspaceId = workspaceId && run.runId ∈ db.runTree workflowRunId workspaceId)).take 501
  let shown := agentRuns.take 500
  let runIds := shown.map AgentRun.runId
  { workspaceId, workflowRun := workflow, agentRuns := shown, requests := nodes
    edges := shown.flatMap (runEdges workflowRunId runIds) ++
      nodes.flatMap (requestEdges workflowRunId runIds) ++ references.flatMap referenceEdges
    references, totals
    pagination :=
      { limit, offset
        truncated := offset + nodes.length < totals.requestCount
        agentRunsTruncated := 500 < agentRuns.length } }

end GraphTables

def getWorkflowRunGraph (execution : Execution) (db : GraphTables)
    (workflowRunId workspaceId : Str) (limit offset : Int) : Except Raised (Option RunGraph) :=
  if workspaceId = [] ∨ ¬ (1 ≤ limit ∧ limit ≤ 500) ∨ offset < 0 then
    .error ⟨"ValueError", "workspace_id and valid pagination are required"⟩
  else
    match db.workflowRuns.find? fun run =>
        run.workspaceId = workspaceId && run.workflowRunId = workflowRunId with
    | none => .ok none
    | some workflow =>
      .ok (db.runGraph workflowRunId workspaceId execution workflow limit.toNat offset.toNat)

end BurnLens.Agents
