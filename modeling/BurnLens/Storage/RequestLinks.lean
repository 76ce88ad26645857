import BurnLens.Library.Machine
import BurnLens.Library.Reach
import BurnLens.Storage.RequestColumns

/-! # Links between requests

A request may name the event that is its parent, that it retries, and that it is a fallback of,
before or after that event is stored.  A link that would close a cycle is dropped from the row;
the check of it and the insert are one transaction of the only writer.
-/

namespace BurnLens.Storage

open Library Cost Relation

/-! ## Records and rows -/

/-- `REQUEST_RELATION_FIELDS`. -/
inductive RelationField where
  | parentEventId
  | retryOfEventId
  | fallbackOfEventId
deriving DecidableEq

def requestRelationFields : List RelationField :=
  [.parentEventId, .retryOfEventId, .fallbackOfEventId]

def RelationField.name : RelationField → Str
  | .parentEventId => "parent_event_id"
  | .retryOfEventId => "retry_of_event_id"
  | .fallbackOfEventId => "fallback_of_event_id"

abbrev Relations := RelationField → Option Str

structure LinkedRecord extends LedgerRecord where
  workspaceId : Option Str := none
  workflowRunId : Option Str := none
  runId : Option Str := none
  relation : RelationField → Option Json := fun _ => none

/-- A row: the columns of the record, its links, and what they are looked up by. -/
structure LinkedRow where
  row : Row
  workspaceId : Option Str
  workflowRunId : Option Str
  runId : Option Str
  relation : Relations

def LinkedRow.eventId (row : LinkedRow) : Str := row.row.stored.eventId

structure Link where
  source : Str
  target : Str
  kind : RelationField
deriving DecidableEq

/-- `_REQUEST_LINKS_SQL`. -/
def requestLinks (rows : List LinkedRow) (workspaceId : Str) : List Link :=
  requestRelationFields.flatMap fun kind =>
    (rows.filter fun row => row.workspaceId = some workspaceId).filterMap fun row =>
      (row.relation kind).map fun target => ⟨row.eventId, target, kind⟩

def linked (links : List Link) (a b : Str) : Bool :=
  links.any fun link => link.source = a && link.target = b

/-- The ids that a recursive walk along the links finds. -/
def walk (links : List Link) (start : Str) : List Str :=
  closure (linked links) (links.map Link.target) [start]

def isControl (char : Char) : Bool := char.toNat < 32 || (127 ≤ char.toNat && char.toNat ≤ 159)

def malformed (target : Str) : Bool := target = [] || 128 < target.length || target.any isControl

def LinkedRecord.conflicting (record : LinkedRecord) : Bool :=
  ((record.relation .retryOfEventId).map Json.truthy).getD false &&
    ((record.relation .fallbackOfEventId).map Json.truthy).getD false

/-- The target is on a walk back to the event; without a workspace nothing is looked up. -/
def closesCycle (rows : List LinkedRow) (workspaceId : Option Str) (target eventId : Str) : Bool :=
  match workspaceId with
  | none | some [] => false
  | some workspaceId => eventId ∈ walk (requestLinks rows workspaceId) target

/-- `_validate_request_relationships`, for a column that has a value. -/
def validTarget (rows : List LinkedRow) (record : LinkedRecord) (eventId : Str)
    (kind : RelationField) : Json → Option Str
  | .str target =>
    if malformed target || target = eventId || (record.conflicting && kind ≠ .parentEventId) ||
      closesCycle rows record.workspaceId target eventId then none
    else some target
  | _ => none

def validateRequestRelationships (rows : List LinkedRow) (record : LinkedRecord) (eventId : Str) :
    Relations :=
  fun kind => (record.relation kind).bind (validTarget rows record eventId kind)

/-! ## The insert -/

/-- What a call has when it gets to the database: the id that it draws, the day, and the record. -/
structure InsertRequest where
  today : Date
  fresh : Str
  record : LinkedRecord

namespace InsertRequest

def eventId (call : InsertRequest) : Str := call.record.resolveEventId call.fresh

def hasRelation (call : InsertRequest) : Bool :=
  requestRelationFields.any fun kind => (call.record.relation kind).isSome

/-- `value or tags.get(name) or None`. -/
def orTag (value : Option Str) (tags : Fields) (name : Str) : Json :=
  (optionalText value).orElse ((tags.getD name .null).orElse .null)

/-- What the columns of the runs are bound to. -/
def runColumns (call : InsertRequest) (tags : Fields) : Fields :=
  [("workflow_run_id", orTag call.record.workflowRunId tags "workflow_run_id"),
   ("run_id", orTag call.record.runId tags "run_id")]

/-- The record, with the runs among the values that are bound. -/
def bindingRuns (call : InsertRequest) (tags : Fields) : LedgerRecord :=
  { call.record.toLedgerRecord with
    nullable := call.record.nullable ++ (call.runColumns tags).map Prod.snd }

def linkedRow (call : InsertRequest) (texts : NumberText) (tags : Fields) (relation : Relations)
    (row : Row) : LinkedRow :=
  let runs := (call.runColumns tags).map fun column => (column.1, texts.textAffinity column.2)
  { row, relation
    workspaceId := call.record.workspaceId
    workflowRunId := textColumn runs "workflow_run_id"
    runId := textColumn runs "run_id" }

end InsertRequest

section

variable (pricing : PricingData) (texts : NumberText) (dumps : Json → Str)

/-- The insert of a validated record: what `insertRow` adds, with the columns of the links. -/
def insertLinked (rows : List LinkedRow) (call : InsertRequest) (relation : Relations) :
    Except PyError (List LinkedRow) := do
  let tags ← call.record.boundTags
  let rows' ← insertRow pricing texts dumps call.today call.fresh (rows.map LinkedRow.row)
    (call.bindingRuns tags)
  return rows ++ (rows'.drop rows.length).map (call.linkedRow texts tags relation)

/-! ## The writers -/

/-- A call that returned, and the table it found. -/
structure Returned where
  call : InsertRequest
  rows : List LinkedRow

structure Ledger where
  rows : List LinkedRow := []
  -- the transaction that holds the lock, and the links that it has validated
  writer : Option (InsertRequest × Relations) := none
  returned : List Returned := []

inductive WriterStep where
  -- `BEGIN IMMEDIATE`, and the validation
  | begin (call : InsertRequest)
  -- the insert and the commit
  | commit
  -- the transaction ends without a commit
  | rollback
  -- a call without links, whose insert is a transaction of its own
  | insert (call : InsertRequest)

namespace Ledger

def store (s : Ledger) (call : InsertRequest) (relation : Relations) : Ledger :=
  match insertLinked pricing texts dumps s.rows call relation with
  | .ok rows => { rows, writer := none, returned := ⟨call, s.rows⟩ :: s.returned }
  | .error _ => { s with writer := none }

end Ledger

/-- `insert_request`, called any number of times at once. -/
def writers : Machine Ledger WriterStep where
  step s
    | .begin call =>
      if s.writer.isNone && call.hasRelation then
        some { s with
          writer := some (call, validateRequestRelationships s.rows call.record call.eventId) }
      else none
    | .commit => s.writer.map fun writer => s.store pricing texts dumps writer.1 writer.2
    | .rollback => s.writer.map fun _ => { s with writer := none }
    | .insert call =>
      if s.writer.isNone && !call.hasRelation then
        some (s.store pricing texts dumps call fun _ => none)
      else none

end

/-- The call that a step is about, if it names one. -/
def WriterStep.call? : WriterStep → Option InsertRequest
  | .begin call | .insert call => some call
  | .commit | .rollback => none

/-- The calls are of records with a workspace. -/
def WithWorkspace (step : WriterStep) : Prop :=
  ∀ call ∈ step.call?, ∃ workspaceId, call.record.workspaceId = some workspaceId ∧ workspaceId ≠ []

section

variable {rows : List LinkedRow} {workspaceId a b target eventId : Str}

def Linked (rows : List LinkedRow) (workspaceId a b : Str) : Prop :=
  ∃ link ∈ requestLinks rows workspaceId, link.source = a ∧ link.target = b

theorem mem_walk {links : List Link} : b ∈ walk links a ↔
    ReflTransGen (fun a b => ∃ link ∈ links, link.source = a ∧ link.target = b) a b := by
  have edges : Leads (linked links) (links.map Link.target) =
      fun a b => ∃ link ∈ links, link.source = a ∧ link.target = b := by
    funext a b
    simp only [Leads, linked, List.any_eq_true, Bool.and_eq_true, decide_eq_true_eq, eq_iff_iff]
    constructor
    · exact And.right
    · rintro ⟨link, member, its⟩
      exact ⟨List.mem_map.mpr ⟨link, member, its.2⟩, link, member, its⟩
  simp [walk, mem_closure, edges]

theorem mem_requestLinks {link : Link} : link ∈ requestLinks rows workspaceId ↔
    ∃ row ∈ rows, row.workspaceId = some workspaceId ∧ row.eventId = link.source ∧
      row.relation link.kind = some link.target := by
  obtain ⟨source, target, kind⟩ := link
  simp only [requestLinks, List.mem_flatMap, List.mem_filterMap, List.mem_filter,
    decide_eq_true_eq, Option.map_eq_some_iff, Link.mk.injEq]
  constructor
  · rintro ⟨_, -, row, ⟨stored, own⟩, _, its, rfl, rfl, rfl⟩
    exact ⟨row, stored, own, rfl, its⟩
  · rintro ⟨row, stored, own, source, its⟩
    refine ⟨kind, ?_, row, ⟨stored, own⟩, target, its, source, rfl, rfl⟩
    cases kind <;> simp [requestRelationFields]

theorem linked_iff : Linked rows workspaceId a b ↔ ∃ row ∈ rows,
    row.workspaceId = some workspaceId ∧ row.eventId = a ∧ ∃ kind, row.relation kind = some b := by
  constructor
  · rintro ⟨link, member, rfl, rfl⟩
    obtain ⟨row, stored, own, source, its⟩ := mem_requestLinks.mp member
    exact ⟨row, stored, own, source, link.kind, its⟩
  · rintro ⟨row, stored, own, source, kind, its⟩
    exact ⟨⟨a, b, kind⟩, mem_requestLinks.mpr ⟨row, stored, own, source, its⟩, rfl, rfl⟩

end

end BurnLens.Storage
