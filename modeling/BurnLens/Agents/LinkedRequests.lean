import BurnLens.Agents.RunGraph

/-! # Linked requests

In every ledger that `insert_request` writes, the graph of a workflow run has no invalid link, its
costs add up, and its pages list every request once.
-/

namespace BurnLens.Agents

open Library Storage Relation

section

variable {db : GraphTables} {workflowRunId workspaceId : Str} {limit offset : Int}
  {execution : Execution} {graph : RunGraph}

theorem getWorkflowRunGraph_some
    (found : getWorkflowRunGraph execution db workflowRunId workspaceId limit offset =
      .ok (some graph)) :
    ∃ workflow, graph =
      db.runGraph workflowRunId workspaceId execution workflow limit.toNat offset.toNat := by
  simp only [getWorkflowRunGraph] at found
  split at found
  · cases found
  · split at found
    · cases found
    · next workflow _ =>
      cases found
      exact ⟨workflow, rfl⟩

theorem not_isInvalid (acyclic : Acyclic (Linked db.requests workspaceId)) {link : Link}
    (member : link ∈ db.links workspaceId) : db.isInvalid workspaceId link = false := by
  rw [GraphTables.isInvalid, decide_eq_false_iff_not, mem_walk]
  intro back
  exact acyclic link.source (TransGen.head' ⟨link, member, rfl, rfl⟩ back)

theorem invalidCount_eq_zero (acyclic : Acyclic (Linked db.requests workspaceId)) :
    (db.totals workflowRunId workspaceId).invalidCount = 0 := by
  simp only [GraphTables.totals, List.countP_eq_zero]
  intro link selected
  rw [not_isInvalid acyclic (List.mem_filter.mp selected).1]
  exact Bool.false_ne_true

theorem ledgerKey_injective (distinct : (db.requests.map fun row => row.row.id).Nodup) :
    ∀ a ∈ db.selected workflowRunId workspaceId, ∀ b ∈ db.selected workflowRunId workspaceId,
      ledgerKey a = ledgerKey b → a = b := by
  intro a selected b selected' same
  have ids : a.row.id = b.row.id := congrArg (fun key => (ofLex (ofLex key).2).2) same
  exact List.inj_on_of_nodup_map distinct (List.mem_filter.mp selected).1
    (List.mem_filter.mp selected').1 ids

theorem pages_of_graphs (distinct : (db.requests.map fun row => row.row.id).Nodup)
    {executions : Nat → Execution} {limit pages : Nat} {graphs : Nat → RunGraph}
    (found : ∀ k < pages, getWorkflowRunGraph (executions k) db workflowRunId workspaceId limit
      (k * limit) = .ok (some (graphs k)))
    (enough : (db.selected workflowRunId workspaceId).length ≤ pages * limit) :
    ((List.range pages).flatMap fun k => (graphs k).requests).Perm
      (db.selected workflowRunId workspaceId) := by
  have same : ((List.range pages).flatMap fun k => (graphs k).requests) =
      (List.range pages).flatMap fun k => page limit (k * limit)
        ((executions k).requests.order (db.selected workflowRunId workspaceId)) := by
    apply List.flatMap_congr
    intro k member
    obtain ⟨workflow, its⟩ := getWorkflowRunGraph_some (found k (List.mem_range.mp member))
    rw [its, ← Int.natCast_mul]
    rfl
  rw [same]
  exact pages_perm (fun k => (executions k).requests) (ledgerKey_injective distinct) enough

/-- Requests and their links.  However the calls overlap, every record is stored with its cost
    or was ignored, the links are acyclic, and the graph of every workflow run is consistent. -/
theorem requests_linked {pricing : PricingData} {texts : NumberText} {dumps : Json → Str}
    {steps : List WriterStep} {s : Storage.Ledger}
    (withWorkspace : ∀ step ∈ steps, WithWorkspace step)
    (ran : (writers pricing texts dumps).run {} steps = some s) :
    (∀ returned ∈ s.returned, Settled texts s.rows returned) ∧
    (∀ workspaceId, Acyclic (Linked s.rows workspaceId)) ∧
    ∀ db : GraphTables, db.requests = s.rows → ∀ workflowRunId workspaceId,
      (∀ execution limit offset graph,
        getWorkflowRunGraph execution db workflowRunId workspaceId limit offset = .ok (some graph) →
        graph.totals.invalidCount = 0 ∧
          graph.totals.linkedCostUsd + graph.totals.unlinkedCostUsd = graph.totals.ledgerCostUsd) ∧
      ∀ (executions : Nat → Execution) (limit pages : Nat) (graphs : Nat → RunGraph),
        (∀ k < pages, getWorkflowRunGraph (executions k) db workflowRunId workspaceId limit
          (k * limit) = .ok (some (graphs k))) →
        (db.selected workflowRunId workspaceId).length ≤ pages * limit →
        ((List.range pages).flatMap fun k => (graphs k).requests).Perm
          (db.selected workflowRunId workspaceId) := by
  have consistent : Consistent texts s :=
    consistent_step.run _ consistent_start (Machine.guarded_of_forall _ withWorkspace _) ran
  refine ⟨consistent.settled, consistent.acyclic, ?_⟩
  intro db same workflowRunId workspaceId
  constructor
  · intro execution limit offset graph found
    obtain ⟨workflow, rfl⟩ := getWorkflowRunGraph_some found
    refine ⟨invalidCount_eq_zero (same ▸ consistent.acyclic workspaceId), ?_⟩
    exact add_sub_cancel _ _
  · intro executions limit pages graphs found enough
    apply pages_of_graphs _ found enough
    rw [same, consistent.ids]
    exact List.nodup_range'

end

def wholeNumbers : NumberText :=
  .unread fun
    | .int n => decimal n
    | .float _ => "1.5"

def acmeCall (eventId : Str) (record : RequestRecord) (parent : Option Str := none) :
    InsertRequest where
  today := 0
  fresh := []
  record :=
    { record with
      eventId := some eventId, timestamp := .aware marchMoment.toDateTime, workspaceId := some "acme"
      relation := fun kind => if kind = .parentEventId then parent.map Json.str else none }

def gptRecord : RequestRecord := { eventId := none, provider := "openai", model := .str "gpt-4o" }

/-- Two records that name each other as parent. -/
def crossedSteps : List WriterStep :=
  [.begin (acmeCall "a" gptRecord (some "b")), .commit,
   .begin (acmeCall "b" gptRecord (some "a")), .commit]

theorem crossed_acyclic : ∃ s, (writers noPricing wholeNumbers fun _ => "{}").run {} crossedSteps = some s ∧
    Acyclic (Linked s.rows "acme") := by
  have runs : ((writers noPricing wholeNumbers fun _ => "{}").run {} crossedSteps).isSome = true := by
    decide +kernel
  obtain ⟨s, ran⟩ := Option.isSome_iff_exists.mp runs
  refine ⟨s, ran, (requests_linked ?_ ran).2.1 "acme"⟩
  intro step member call named
  have its : call.record.workspaceId = some ("acme" : Str) := by
    simp only [crossedSteps, List.mem_cons, List.not_mem_nil, or_false] at member
    rcases member with rfl | rfl | rfl | rfl <;> cases named <;> rfl
  exact ⟨"acme", its, by decide⟩

/-- Another import of a message that a scan has read. -/
def scanRecord : RequestRecord :=
  { gptRecord with source := some "scan_codex", requestId := some "message" }

/-- The record of a scan is dropped for another event id. -/
theorem scan_dropped :
    ((writers noPricing wholeNumbers fun _ => "{}").run {}
        [.insert (acmeCall "a" scanRecord), .insert (acmeCall "b" scanRecord)]).map
      (fun s => (s.returned.length, s.rows.map LinkedRow.eventId)) = some (2, [("a" : Str)]) := by
  decide +kernel

end BurnLens.Agents
