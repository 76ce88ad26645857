import BurnLens.Execution.Binding
import BurnLens.Execution.Service
import BurnLens.Library.Json
import BurnLens.Library.Numeral
import BurnLens.Library.Table

/-! # Execution records

Calls of `AssistedExecutionService.execute`, one after the other, on the tables of executions,
approval tokens and timeline events.  What the client of the git provider answers is a
parameter of each call.
-/

namespace BurnLens.Execution

open Library hiding lower

structure TimelineEvent where
  eventId : Str
  executionId : Str
  stage : Str
  message : Str
  details : Fields
  timestamp : Time

/-- The part of a result that is stored in `execution_records`. -/
structure Outcome where
  executionId : Str
  status : Status
  workspaceId : Str
  repo : Str
  branchName : Option Str := none
  commitSha : Option Str := none
  prNumber : Option Int := none
  prUrl : Option Str := none
  ciStatus : Option Str := none
  isUnmerged : Bool := true
  errorCode : Option Str := none
  errorMessage : Option Str := none
  executedAt : Time

structure ExecutionResult where
  outcome : Outcome
  idempotentReplay : Bool := false
  timeline : List TimelineEvent

structure ExecutionRow where
  outcome : Outcome
  agentId : Str
  taskId : Str
  recommendationId : Str
  baseBranch : Str
  targetBranch : Str
  idempotencyKey : Str

def ExecutionRow.key (row : ExecutionRow) : ExecutionRecord :=
  ⟨row.outcome.executionId, row.outcome.workspaceId, row.idempotencyKey⟩

structure TimelineRow where
  event : TimelineEvent
  -- whose call wrote the event; the table has no such columns
  workspaceId : Str
  idempotencyKey : Str

structure Database where
  records : List ExecutionRow
  timeline : List TimelineRow
  -- by token id
  tokens : List (Str × TokenRow)

structure CommitInfo where
  commitSha : Option Str
  info : Fields

structure PullRequest where
  prNumber : Option Int
  htmlUrl : Option Str
  info : Fields

/-- What the provider's client answers during one call. -/
structure ClientAnswers where
  createBranch : Except Raised Fields
  commitFiles : Except Raised CommitInfo
  createPullRequest : Except Raised PullRequest
  getCiStatus : Except Raised Str

structure Invocation extends Call where
  -- of the token
  approvedAt : Time
  -- the ids drawn for the timeline events
  eventIds : Nat → Str
  client : ClientAnswers

/-- The unique keys of `execution_records`. -/
def ExecutionRow.clashes (other row : ExecutionRow) : Bool :=
  other.outcome.executionId = row.outcome.executionId ∨
    other.outcome.workspaceId = row.outcome.workspaceId ∧ other.idempotencyKey = row.idempotencyKey

/-- `INSERT OR IGNORE INTO execution_timeline`. -/
def insertEvent (timeline : List TimelineRow) (row : TimelineRow) : List TimelineRow :=
  if timeline.any fun other => other.event.eventId = row.event.eventId then timeline
  else timeline ++ [row]

namespace Database

variable (db : Database)

def findRecord (workspaceId idempotencyKey : Str) : Option ExecutionRow :=
  db.records.find? fun row =>
    row.outcome.workspaceId = workspaceId ∧ row.idempotencyKey = idempotencyKey

def getApprovalToken (tokenId workspaceId : Str) : Option TokenRow :=
  (db.tokens.lookup tokenId).filter fun row => row.workspaceId = workspaceId

def markTokenConsumed (tokenId : Str) : List (Str × TokenRow) :=
  db.tokens.map fun token => if token.1 = tokenId then (token.1, token.2.consume) else token

end Database

namespace Runtime

variable (r : Runtime)

/-- `ORDER BY timestamp ASC`, on the stored texts. -/
def byTimestamp (events : List TimelineEvent) : List TimelineEvent :=
  events.mergeSort fun a b => !decide (r.isoformat b.timestamp < r.isoformat a.timestamp)

def getTimeline (db : Database) (executionId : Str) : List TimelineEvent :=
  r.byTimestamp ((db.timeline.filter fun row => row.event.executionId = executionId).map
    TimelineRow.event)

def getByIdempotency (db : Database) (workspaceId idempotencyKey : Str) :
    Option ExecutionResult :=
  (db.findRecord workspaceId idempotencyKey).map fun row =>
    { outcome := row.outcome
      idempotentReplay := true
      timeline := r.getTimeline db row.outcome.executionId }

end Runtime

/-! ## The call -/

namespace Invocation

variable (call : Invocation)

def recordStage (timeline : List TimelineEvent) (stage message : Str) (details : Fields := []) :
    List TimelineEvent :=
  timeline ++ [⟨call.eventIds timeline.length, call.request.executionId, stage, message, details,
    call.now⟩]

/-- The token, once the persisted status is synced. -/
def synced (db : Database) : ApprovalToken :=
  match db.getApprovalToken call.token.tokenId call.request.workspaceId with
  | some row => { call.token with consumed := call.token.consumed || row.consumed }
  | none => call.token

def unsuccessful (status : Status) (errorCode errorMessage : Str) : Outcome where
  executionId := call.request.executionId
  status := status
  workspaceId := call.request.workspaceId
  repo := call.request.repo
  errorCode := some errorCode
  errorMessage := some errorMessage
  executedAt := call.now

def denied (timeline : List TimelineEvent) (errorCode reason : Str) : ExecutionResult where
  outcome := call.unsuccessful .denied errorCode reason
  timeline := call.recordStage timeline "DENIED" reason

def failed (timeline : List TimelineEvent) (raised : Raised) : ExecutionResult where
  outcome := call.unsuccessful .failed raised.errorType raised.message
  timeline := call.recordStage timeline "FAILED" raised.message
    [("error_type", .str raised.errorType)]

/-- The adapter's refusal of protected branches, before the client is reached. -/
def guardBranch {α : Type} (r : Runtime) (message : Str) (answer : Except Raised α) :
    Except Raised α :=
  if r.lower (strip call.request.targetBranch) ∈ Runtime.protectedBranches then
    .error ⟨"ProtectedBranchError", message⟩
  else answer

def createBranch (r : Runtime) : Except Raised Fields :=
  call.guardBranch r ("Cannot create branch with protected name '" ++
    call.request.targetBranch ++ "'") call.client.createBranch

def commitScopedChanges (r : Runtime) : Except Raised CommitInfo :=
  call.guardBranch r ("Direct commit to protected branch '" ++ call.request.targetBranch ++
    "' is strictly forbidden.") call.client.commitFiles

/-- Step 7: the adapter's steps, and the result they end in. -/
def workflow (r : Runtime) (approved : List TimelineEvent) :
    List AdapterStep × ExecutionResult :=
  let started := call.recordStage approved "EXECUTION_STARTED"
    ("Creating branch '" ++ call.request.targetBranch ++ "'")
  match call.createBranch r with
  | .error raised => ([.createBranch], call.failed started raised)
  | .ok branchInfo =>
    let created := call.recordStage started "BRANCH_CREATED"
      ("Created branch '" ++ call.request.targetBranch ++ "'") branchInfo
    match call.commitScopedChanges r with
    | .error raised => ([.createBranch, .commitScopedChanges], call.failed created raised)
    | .ok commit =>
      let committed := call.recordStage created "FILES_COMMITTED"
        ("Committed " ++ decimal call.request.changes.length ++ " files (" ++
          commit.commitSha.getD "None" ++ ")") commit.info
      match call.client.createPullRequest with
      | .error raised =>
        ([.createBranch, .commitScopedChanges, .openPullRequest], call.failed committed raised)
      | .ok pullRequest =>
        let opened := call.recordStage committed "PR_OPENED"
          ("Opened PR #" ++ (pullRequest.prNumber.map decimal).getD "None") pullRequest.info
        match call.client.getCiStatus with
        | .error raised =>
          ([.createBranch, .commitScopedChanges, .openPullRequest, .recordCiStatus],
            call.failed opened raised)
        | .ok ciStatus =>
          let recorded := call.recordStage opened "CI_RECORDED" ("Initial CI status: " ++ ciStatus)
            [("ci_status", .str ciStatus)]
          ([.createBranch, .commitScopedChanges, .openPullRequest, .recordCiStatus],
            { outcome :=
                { executionId := call.request.executionId
                  status := .completed
                  workspaceId := call.request.workspaceId
                  repo := call.request.repo
                  branchName := some call.request.targetBranch
                  commitSha := commit.commitSha
                  prNumber := pullRequest.prNumber
                  prUrl := pullRequest.htmlUrl
                  ciStatus := some ciStatus
                  executedAt := call.now }
              timeline := call.recordStage recorded "COMPLETED"
                "Execution completed safely; PR remains open and unmerged"
                [("pr_number", (pullRequest.prNumber.map Json.int).getD .null),
                  ("is_unmerged", .bool true)] })

/-- Steps 2 to 7: the tokens, the adapter's steps and the result to be saved. -/
def attempt (r : Runtime) (db : Database) :
    List (Str × TokenRow) × List AdapterStep × ExecutionResult :=
  let recommended := call.recordStage [] "RECOMMENDED"
    ("Recommendation " ++ call.request.recommendationId ++ " prepared for execution")
    [("agent_id", .str call.request.agentId), ("task_id", .str call.request.taskId),
      ("repo", .str call.request.repo)]
  if call.token.workspaceId ≠ call.request.workspaceId then
    (db.tokens, [], call.denied recommended "TENANT_ISOLATION_VIOLATION"
      ("TENANT_ISOLATION_VIOLATION: Token workspace " ++ call.token.workspaceId ++
        " does not match request workspace " ++ call.request.workspaceId))
  else
    match r.verifier.verify call.request (call.synced db) call.now with
    | .error reason => (db.tokens, [], call.denied recommended (strip (before ':' reason)) reason)
    | .ok () =>
      let approved := call.recordStage recommended "APPROVAL_VERIFIED"
        ("Approved by " ++ call.token.approver)
        [("token_id", .str call.token.tokenId),
          ("approved_at", .str (r.isoformat call.approvedAt))]
      (db.markTokenConsumed call.token.tokenId, call.workflow r approved)

def row (outcome : Outcome) : ExecutionRow where
  outcome := outcome
  agentId := call.request.agentId
  taskId := call.request.taskId
  recommendationId := call.request.recommendationId
  baseBranch := call.request.baseBranch
  targetBranch := call.request.targetBranch
  idempotencyKey := call.request.idempotencyKey

def timelineRow (event : TimelineEvent) : TimelineRow :=
  ⟨event, call.request.workspaceId, call.request.idempotencyKey⟩

/-- `save_execution`, the only write to the two tables. -/
def saveExecution (db : Database) (tokens : List (Str × TokenRow)) (result : ExecutionResult) :
    Database where
  records := insertOrReplace ExecutionRow.clashes db.records (call.row result.outcome)
  timeline := (result.timeline.map call.timelineRow).foldl insertEvent db.timeline
  tokens := tokens

end Invocation

structure Response where
  database : Database
  steps : List AdapterStep
  result : ExecutionResult

def execute (r : Runtime) (db : Database) (call : Invocation) : Response :=
  match r.getByIdempotency db call.request.workspaceId call.request.idempotencyKey with
  | some existing => ⟨db, [], existing⟩
  | none =>
    let (tokens, steps, result) := call.attempt r db
    ⟨call.saveExecution db tokens result, steps, result⟩

def service (r : Runtime) : Machine Database Invocation where
  step db call := some (execute r db call).database

/-! ## Isolation, immutability, idempotence -/

/-- What the timeline holds of the execution of a key. -/
def Runtime.ownTimeline (r : Runtime) (db : Database) (workspaceId idempotencyKey : Str) :
    List TimelineEvent :=
  r.byTimestamp ((db.timeline.filter fun row =>
    row.workspaceId = workspaceId ∧ row.idempotencyKey = idempotencyKey).map TimelineRow.event)

structure Respects (r : Runtime) (db : Database) (call : Invocation) : Prop where
  records : ∀ row ∈ db.records, row ∈ (execute r db call).database.records
  timeline : ∀ row ∈ db.timeline, row ∈ (execute r db call).database.timeline
  -- nothing of another workspace is returned
  isolated : (execute r db call).result.outcome.workspaceId = call.request.workspaceId ∧
    ∀ row ∈ db.timeline, row.event ∈ (execute r db call).result.timeline →
      row.workspaceId = call.request.workspaceId
  recorded : ∃ row ∈ (execute r db call).database.records,
    row.outcome = (execute r db call).result.outcome ∧
      row.idempotencyKey = call.request.idempotencyKey
  replays : ∀ row ∈ db.records, row.outcome.workspaceId = call.request.workspaceId →
    row.idempotencyKey = call.request.idempotencyKey →
    execute r db call = ⟨db, [], row.outcome, true,
      r.ownTimeline db call.request.workspaceId call.request.idempotencyKey⟩

/-- A call without a stored result names an execution id that no stored record has. -/
def NewExecutionId (db : Database) (call : Invocation) : Prop :=
  db.findRecord call.request.workspaceId call.request.idempotencyKey = none →
    ∀ row ∈ db.records, row.outcome.executionId ≠ call.request.executionId

structure Consistent (db : Database) : Prop where
  ids : ∀ a ∈ db.records, ∀ b ∈ db.records,
    a.outcome.executionId = b.outcome.executionId → a = b
  keys : ∀ a ∈ db.records, ∀ b ∈ db.records, a.outcome.workspaceId = b.outcome.workspaceId →
    a.idempotencyKey = b.idempotencyKey → a = b
  owned : ∀ row ∈ db.timeline, ∃ record ∈ db.records,
    record.outcome.executionId = row.event.executionId ∧
      record.outcome.workspaceId = row.workspaceId ∧ record.idempotencyKey = row.idempotencyKey

/-- The result is about the execution that the call asks for. -/
structure About (call : Invocation) (result : ExecutionResult) : Prop where
  executionId : result.outcome.executionId = call.request.executionId
  workspaceId : result.outcome.workspaceId = call.request.workspaceId
  timeline : ∀ event ∈ result.timeline, event.executionId = call.request.executionId

variable {r : Runtime} {db : Database} {call : Invocation}

theorem recordStage_own {timeline : List TimelineEvent} {stage message : Str} {details : Fields}
    (own : ∀ event ∈ timeline, event.executionId = call.request.executionId) :
    ∀ event ∈ call.recordStage timeline stage message details,
      event.executionId = call.request.executionId := by
  intro event member
  rw [Invocation.recordStage, List.mem_append, List.mem_singleton] at member
  obtain before | rfl := member
  · exact own event before
  · rfl

theorem about_denied {timeline : List TimelineEvent} {errorCode reason : Str}
    (own : ∀ event ∈ timeline, event.executionId = call.request.executionId) :
    About call (call.denied timeline errorCode reason) :=
  ⟨rfl, rfl, recordStage_own own⟩

theorem about_failed {timeline : List TimelineEvent} {raised : Raised}
    (own : ∀ event ∈ timeline, event.executionId = call.request.executionId) :
    About call (call.failed timeline raised) :=
  ⟨rfl, rfl, recordStage_own own⟩

theorem about_workflow {approved : List TimelineEvent}
    (own : ∀ event ∈ approved, event.executionId = call.request.executionId) :
    About call (call.workflow r approved).2 := by
  simp only [Invocation.workflow]
  split
  · exact about_failed (recordStage_own own)
  · split
    · exact about_failed (recordStage_own (recordStage_own own))
    · split
      · exact about_failed (recordStage_own (recordStage_own (recordStage_own own)))
      · split
        · exact about_failed
            (recordStage_own (recordStage_own (recordStage_own (recordStage_own own))))
        · refine ⟨rfl, rfl, ?_⟩
          iterate 6 apply recordStage_own
          exact own

theorem about_attempt : About call (call.attempt r db).2.2 := by
  have recommended : ∀ stage message details,
      ∀ event ∈ call.recordStage [] stage message details,
        event.executionId = call.request.executionId :=
    fun stage message details => recordStage_own nofun
  simp only [Invocation.attempt]
  split
  · exact about_denied (recommended _ _ _)
  · split
    · exact about_denied (recommended _ _ _)
    · exact about_workflow (recordStage_own (recommended _ _ _))

theorem mem_saved {records : List ExecutionRow} {row other : ExecutionRow} :
    other ∈ insertOrReplace ExecutionRow.clashes records row ↔ (other ∈ records ∧
      other.outcome.executionId ≠ row.outcome.executionId ∧
        ¬ (other.outcome.workspaceId = row.outcome.workspaceId ∧
          other.idempotencyKey = row.idempotencyKey)) ∨ other = row := by
  rw [mem_insertOrReplace, ExecutionRow.clashes, decide_eq_false_iff_not, not_or]

theorem mem_insertEvents {timeline rows : List TimelineRow} {row : TimelineRow}
    (member : row ∈ timeline) : row ∈ rows.foldl insertEvent timeline := by
  induction rows generalizing timeline with
  | nil => exact member
  | cons head rows inductionHypothesis =>
    apply inductionHypothesis
    rw [insertEvent]
    split
    · exact member
    · exact List.mem_append_left _ member

theorem of_mem_insertEvents {timeline rows : List TimelineRow} {row : TimelineRow}
    (member : row ∈ rows.foldl insertEvent timeline) : row ∈ timeline ∨ row ∈ rows := by
  induction rows generalizing timeline with
  | nil => exact Or.inl member
  | cons head rows inductionHypothesis =>
    obtain before | later := inductionHypothesis member
    · rw [insertEvent] at before
      split at before
      · exact Or.inl before
      · obtain old | rfl := List.mem_append.mp before |>.imp_right List.mem_singleton.mp
        · exact Or.inl old
        · exact Or.inr (List.mem_cons_self ..)
    · exact Or.inr (List.mem_cons_of_mem _ later)

theorem mem_byTimestamp {events : List TimelineEvent} {event : TimelineEvent} :
    event ∈ r.byTimestamp events ↔ event ∈ events :=
  List.mem_mergeSort

theorem findRecord_some {row : ExecutionRow} {workspaceId idempotencyKey : Str}
    (found : db.findRecord workspaceId idempotencyKey = some row) :
    row ∈ db.records ∧ row.outcome.workspaceId = workspaceId ∧
      row.idempotencyKey = idempotencyKey := by
  have meets := List.find?_some found
  exact ⟨List.mem_of_find?_eq_some found, by simpa using meets⟩

theorem findRecord_none {row : ExecutionRow} {workspaceId idempotencyKey : Str}
    (missing : db.findRecord workspaceId idempotencyKey = none) (member : row ∈ db.records) :
    ¬ (row.outcome.workspaceId = workspaceId ∧ row.idempotencyKey = idempotencyKey) := by
  simpa using List.find?_eq_none.mp missing row member

theorem execute_stored {row : ExecutionRow}
    (found : db.findRecord call.request.workspaceId call.request.idempotencyKey = some row) :
    execute r db call =
      ⟨db, [], row.outcome, true, r.getTimeline db row.outcome.executionId⟩ := by
  simp [execute, Runtime.getByIdempotency, found]

theorem execute_new
    (missing : db.findRecord call.request.workspaceId call.request.idempotencyKey = none) :
    execute r db call = ⟨call.saveExecution db (call.attempt r db).1 (call.attempt r db).2.2,
      (call.attempt r db).2.1, (call.attempt r db).2.2⟩ := by
  simp [execute, Runtime.getByIdempotency, missing]

/-- In a consistent database the timeline of an execution id is that of one key. -/
theorem getTimeline_eq (consistent : Consistent db) {row : ExecutionRow}
    (member : row ∈ db.records) :
    r.getTimeline db row.outcome.executionId =
      r.ownTimeline db row.outcome.workspaceId row.idempotencyKey := by
  have same : ∀ event ∈ db.timeline, event.event.executionId = row.outcome.executionId ↔
      event.workspaceId = row.outcome.workspaceId ∧ event.idempotencyKey = row.idempotencyKey := by
    intro event written
    obtain ⟨record, stored, id, workspace, key⟩ := consistent.owned event written
    constructor
    · intro its
      obtain rfl := consistent.ids record stored row member (id.trans its)
      exact ⟨workspace.symm, key.symm⟩
    · rintro ⟨itsWorkspace, itsKey⟩
      obtain rfl := consistent.keys record stored row member (workspace.trans itsWorkspace)
        (key.trans itsKey)
      exact id.symm
  rw [Runtime.getTimeline, Runtime.ownTimeline]
  congr 2
  exact List.filter_congr fun event written => decide_eq_decide.mpr (same event written)

theorem Consistent.saved (consistent : Consistent db) (fresh : NewExecutionId db call) :
    Consistent (execute r db call).database := by
  cases found : db.findRecord call.request.workspaceId call.request.idempotencyKey with
  | some row => rw [execute_stored found]; exact consistent
  | none =>
    rw [execute_new found]
    have about : About call (call.attempt r db).2.2 := about_attempt
    generalize call.attempt r db = attempted at about
    have newId := fresh found
    have newKey := fun row (member : row ∈ db.records) => findRecord_none found member
    simp only [Invocation.saveExecution]
    have mem : ∀ row, row ∈ insertOrReplace ExecutionRow.clashes db.records (call.row attempted.2.2.outcome) →
        row ∈ db.records ∨ row = call.row attempted.2.2.outcome :=
      fun row member => (mem_saved.mp member).imp_left And.left
    constructor
    · intro a memberA b memberB same
      obtain oldA | rfl := mem a memberA <;> obtain oldB | rfl := mem b memberB
      · exact consistent.ids a oldA b oldB same
      · exact absurd (same.trans about.executionId) (newId a oldA)
      · exact absurd (same.symm.trans about.executionId) (newId b oldB)
      · rfl
    · intro a memberA b memberB sameWorkspace sameKey
      obtain oldA | rfl := mem a memberA <;> obtain oldB | rfl := mem b memberB
      · exact consistent.keys a oldA b oldB sameWorkspace sameKey
      · exact absurd ⟨sameWorkspace.trans about.workspaceId, sameKey⟩ (newKey a oldA)
      · exact absurd ⟨sameWorkspace.symm.trans about.workspaceId, sameKey.symm⟩ (newKey b oldB)
      · rfl
    · intro row member
      obtain old | new := of_mem_insertEvents member
      · obtain ⟨record, stored, owns⟩ := consistent.owned row old
        refine ⟨record, mem_saved.mpr (Or.inl ⟨stored, ?_, ?_⟩), owns⟩
        · exact fun same => newId record stored (same.trans about.executionId)
        · exact fun same => newKey record stored ⟨same.1.trans about.workspaceId, same.2⟩
      · obtain ⟨event, inResult, rfl⟩ := List.mem_map.mp new
        refine ⟨_, mem_saved.mpr (Or.inr rfl), ?_, about.workspaceId, rfl⟩
        exact about.executionId.trans (about.timeline event inResult).symm

theorem respects_of_newExecutionId (consistent : Consistent db) (fresh : NewExecutionId db call) :
    Respects r db call := by
  cases found : db.findRecord call.request.workspaceId call.request.idempotencyKey with
  | some row =>
    obtain ⟨member, workspace, key⟩ := findRecord_some found
    have replayed : execute r db call = ⟨db, [], row.outcome, true,
        r.ownTimeline db call.request.workspaceId call.request.idempotencyKey⟩ := by
      rw [execute_stored found, getTimeline_eq consistent member, workspace, key]
    constructor
    · rw [replayed]; exact fun row member => member
    · rw [replayed]; exact fun row member => member
    · rw [execute_stored found]
      refine ⟨workspace, fun event written shown => ?_⟩
      obtain ⟨other, inFilter, same⟩ := List.mem_map.mp (mem_byTimestamp.mp shown)
      have its : event.event.executionId = row.outcome.executionId := by
        rw [← same]
        simpa using (List.mem_filter.mp inFilter).2
      obtain ⟨record, stored, id, owner, -⟩ := consistent.owned event written
      obtain rfl := consistent.ids record stored row member (id.trans its)
      exact owner.symm.trans workspace
    · rw [replayed]; exact ⟨row, member, rfl, key⟩
    · intro other stored otherWorkspace otherKey
      obtain rfl := consistent.keys other stored row member (otherWorkspace.trans workspace.symm)
        (otherKey.trans key.symm)
      exact replayed
  | none =>
    have about : About call (call.attempt r db).2.2 := about_attempt
    have newId := fresh found
    rw [← about.executionId] at newId
    constructor
    · rw [execute_new found]
      intro row member
      refine mem_saved.mpr (Or.inl ⟨member, newId row member, ?_⟩)
      exact fun same => findRecord_none found member ⟨same.1.trans about.workspaceId, same.2⟩
    · rw [execute_new found]
      exact fun row member => mem_insertEvents member
    · rw [execute_new found]
      refine ⟨about.workspaceId, fun row written shown => ?_⟩
      -- no event of an earlier execution has this execution id
      obtain ⟨record, stored, id, -, -⟩ := consistent.owned row written
      have same := id.trans (about.timeline row.event shown)
      exact absurd (same.trans about.executionId.symm) (newId record stored)
    · rw [execute_new found]
      exact ⟨_, mem_saved.mpr (Or.inr rfl), rfl, rfl⟩
    · intro row member workspace key
      exact absurd ⟨workspace, key⟩ (findRecord_none found member)

theorem newExecutionId_of_respects (respects : Respects r db call) : NewExecutionId db call := by
  intro missing row member same
  have about : About call (call.attempt r db).2.2 := about_attempt
  have kept := respects.records row member
  rw [execute_new missing] at kept
  obtain ⟨-, other, -⟩ | rfl := mem_saved.mp kept
  · exact other (same.trans about.executionId.symm)
  · exact findRecord_none missing member ⟨about.workspaceId, rfl⟩

def start (tokens : List (Str × TokenRow)) : Database := ⟨[], [], tokens⟩

theorem consistent_start (tokens : List (Str × TokenRow)) : Consistent (start tokens) := by
  constructor <;> simp [start]

/-- Isolation, immutability and idempotence: every call of a run respects the stored
    executions if and only if every new result is saved under a new execution id. -/
theorem executions_respected (r : Runtime) (tokens : List (Str × TokenRow))
    (calls : List Invocation) :
    (service r).Guarded (Respects r) (start tokens) calls ↔
      (service r).Guarded NewExecutionId (start tokens) calls := by
  apply (service r).guarded_iff Consistent _ _ (consistent_start tokens)
  · intro db call consistent
    exact ⟨newExecutionId_of_respects, respects_of_newExecutionId consistent⟩
  · intro db call db' consistent fresh stepped
    cases stepped
    exact consistent.saved fresh

section TakenOver

/-- A request under the execution id `exec-1`, with a token of another workspace. -/
def misdirected (workspaceId : Str) : Invocation where
  request := { Runtime.requestOn "main" "opt" with workspaceId }
  token := { Runtime.approval with workspaceId := "default" }
  now := 1710504000000000
  approvedAt := 1710500400000000
  eventIds n := "ev-" ++ workspaceId ++ decimal n
  client := ⟨.ok [], .ok ⟨none, []⟩, .ok ⟨none, none, []⟩, .ok "success"⟩

def afterAcme : Database := (execute Runtime.demo (start []) (misdirected "acme")).database

def afterBoth : Database := (execute Runtime.demo afterAcme (misdirected "beta")).database

/-- The record of one workspace is lost to another, which is shown its timeline. -/
theorem execution_taken_over :
    ¬ (service Runtime.demo).Guarded (Respects Runtime.demo) (start [])
        [misdirected "acme", misdirected "beta"] ∧
      ∃ row ∈ afterBoth.timeline, row.workspaceId = "acme" ∧
        row.event ∈ (execute Runtime.demo afterBoth (misdirected "beta")).result.timeline := by
  constructor
  · intro respected
    have second := (respected.2 afterAcme rfl).1
    exact absurd (newExecutionId_of_respects second rfl _ (List.mem_singleton_self _)) (by decide)
  · refine ⟨_, List.mem_cons_self .., rfl, ?_⟩
    have found : afterBoth.findRecord (misdirected "beta").request.workspaceId
        (misdirected "beta").request.idempotencyKey = some ((misdirected "beta").row
          ((misdirected "beta").attempt Runtime.demo afterAcme).2.2.outcome) := rfl
    rw [execute_stored found]
    exact mem_byTimestamp.mpr (List.mem_cons_self ..)

end TakenOver

end BurnLens.Execution
