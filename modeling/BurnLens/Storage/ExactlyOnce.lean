import BurnLens.Library.Machine
import BurnLens.Storage.Requests
import Mathlib.Data.List.Nodup

/-! # Exactly-once persistence

The writers of the requests table (the persistence worker with its retries and its stop, the
recovery of the log, the replay of the dead-letter queue, direct inserts) in any interleaving.
Each of them hands records to `insert_request`, and takes a call that returns for a record that
is stored.  That is true as long as no record leaves a NOT NULL column without a value.
-/

namespace BurnLens.Storage

open Library Cost

/-- How a call of `insert_request` ends: it returns, the database fails it, or it is cancelled
    after its commit. -/
inductive CallOutcome where
  | returns
  | fails
  | interrupted

inductive Writer where
  -- `_worker_loop`, with its active record
  | worker
  -- `stop`, with the record that was active when the loop was cancelled
  | flush
  -- `stop`, with what is left in the queue
  | drain
  -- `recover_wal`
  | recovery
  -- `replay_dlq`
  | replay
  -- `_log_record`, also as the fallback of a failed append, and the scan importers
  | direct (record : RequestRecord)

inductive PersistEvent where
  | enqueue (record : RequestRecord)
  | take
  | stop
  | beginRecovery (lines : List RequestRecord)
  | beginReplay (lines : List RequestRecord)
  -- the process ends, and another one starts
  | restart
  -- a call of `insert_request`, which draws `fresh` for a record without an event id
  | insert (writer : Writer) (fresh : Str) (outcome : CallOutcome)

structure InsertCall where
  table : List StoredRow
  record : RequestRecord
  eventId : Str
  rowId : Nat

structure PersistState where
  table : List StoredRow := []
  queue : List RequestRecord := []
  active : Option RequestRecord := none
  running : Bool := true
  recovering : List RequestRecord := []
  replaying : List RequestRecord := []
  calls : List InsertCall := []

namespace PersistState

variable (tables : PricingTables) (today : Date) (s : PersistState)

def next : Writer → Option RequestRecord
  | .worker => if s.running then s.active else none
  | .flush => if s.running then none else s.active
  | .drain => if s.running then none else s.queue.head?
  | .recovery => s.recovering.head?
  | .replay => s.replaying.head?
  | .direct record => some record

/-- What the writer does next, after a call that returned or one that raised: the worker retries,
    the recovery gives up, and the others go on. -/
def settle (writer : Writer) (returned : Bool) : PersistState :=
  match writer with
  | .worker | .flush => if returned then { s with active := none } else s
  | .drain => { s with queue := s.queue.tail }
  | .recovery => { s with recovering := if returned then s.recovering.tail else [] }
  | .replay => { s with replaying := s.replaying.tail }
  | .direct _ => s

def insert (writer : Writer) (fresh : Str) (outcome : CallOutcome) : Option PersistState :=
  (s.next writer).map fun record =>
    match outcome, insertRequest tables today fresh s.table record with
    | .fails, _ | _, .error _ => s.settle writer false
    | .interrupted, .ok (table, _) => { s with table }
    | .returns, .ok (table, rowId) =>
      let call := ⟨s.table, record, record.resolveEventId fresh, rowId⟩
      { s.settle writer true with table, calls := call :: s.calls }

def take : Option PersistState :=
  match s.running, s.active, s.queue with
  | true, none, record :: rest => some { s with active := some record, queue := rest }
  | _, _, _ => none

end PersistState

def persistence (tables : PricingTables) (today : Date) : Machine PersistState PersistEvent where
  step s
    | .enqueue record => some { s with queue := s.queue ++ [record] }
    | .take => s.take
    | .stop => some { s with running := false }
    | .beginRecovery lines => some { s with recovering := lines }
    | .beginReplay lines => some { s with replaying := lines }
    | .restart =>
      some { s with queue := [], active := none, running := true, recovering := [], replaying := [] }
    | .insert writer fresh outcome => s.insert tables today writer fresh outcome

/-! ## Exactly once -/

structure ExactlyOnce (s : PersistState) : Prop where
  unique : (s.table.map StoredRow.eventId).Nodup
  -- a row is dropped only if it is stored already
  dropped : ∀ call ∈ s.calls, call.rowId = 0 → alreadyStored call.table call.eventId call.record = true

/-- The record that is inserted has a value for every NOT NULL column. -/
def InsertsComplete (s : PersistState) : PersistEvent → Prop
  | .insert writer _ _ => ∀ record ∈ s.next writer, record.complete = true
  | _ => True

instance (s : PersistState) (event : PersistEvent) : Decidable (InsertsComplete s event) :=
  match event with
  | .insert writer _ _ =>
    inferInstanceAs (Decidable (∀ record ∈ s.next writer, record.complete = true))
  | .enqueue _ | .take | .stop | .beginRecovery _ | .beginReplay _ | .restart => isTrue trivial

variable {tables : PricingTables} {today : Date} {s s' : PersistState}

theorem insertRequest_unique {fresh : Str} {table table' : List StoredRow} {record : RequestRecord}
    {rowId : Nat} (unique : (table.map StoredRow.eventId).Nodup)
    (inserted : insertRequest tables today fresh table record = .ok (table', rowId)) :
    (table'.map StoredRow.eventId).Nodup := by
  obtain ⟨rfl, -, new, -⟩ | ⟨rfl, -⟩ := insertRequest_ok inserted
  · rw [List.map_append, List.map_singleton]
    refine unique.append (List.nodup_singleton _) ?_
    simp only [List.disjoint_singleton, List.mem_map, not_exists, not_and]
    intro row stored same
    simp only [alreadyStored, List.any_eq_false, Bool.or_eq_true, not_or, beq_iff_eq] at new
    exact (new row stored).1 same
  · exact unique

theorem settle_table (writer : Writer) (returned : Bool) :
    (s.settle writer returned).table = s.table ∧ (s.settle writer returned).calls = s.calls := by
  cases writer <;> cases returned <;> exact ⟨rfl, rfl⟩

theorem ExactlyOnce.of_same (once : ExactlyOnce s) (table : s'.table = s.table)
    (calls : s'.calls = s.calls) : ExactlyOnce s' :=
  ⟨table ▸ once.unique, calls ▸ once.dropped⟩

theorem ExactlyOnce.insert (once : ExactlyOnce s) {writer : Writer} {fresh : Str}
    {outcome : CallOutcome} (complete : InsertsComplete s (.insert writer fresh outcome))
    (stepped : s.insert tables today writer fresh outcome = some s') : ExactlyOnce s' := by
  obtain ⟨record, next, rfl⟩ := Option.map_eq_some_iff.mp stepped
  split
  · exact once.of_same (settle_table writer false).1 (settle_table writer false).2
  · exact once.of_same (settle_table writer false).1 (settle_table writer false).2
  · next table _ inserted => exact ⟨insertRequest_unique once.unique inserted, once.dropped⟩
  · next table rowId inserted =>
    refine ⟨insertRequest_unique once.unique inserted, fun call member ignored => ?_⟩
    obtain rfl | earlier := List.mem_cons.mp member
    · -- a complete record is ignored for a conflict only
      obtain ⟨-, stored, -⟩ | ⟨-, -, conflict | incomplete⟩ := insertRequest_ok inserted
      · exact absurd (stored.symm.trans ignored) (Nat.succ_ne_zero _)
      · exact conflict
      · rw [complete record next] at incomplete
        cases incomplete
    · exact once.dropped call earlier ignored

theorem persistence_preserves :
    (persistence tables today).Preserves InsertsComplete ExactlyOnce := by
  intro s event s' once complete stepped
  cases event with
  | enqueue record => cases stepped; exact ⟨once.unique, once.dropped⟩
  | take =>
    simp only [persistence, PersistState.take] at stepped
    split at stepped
    · cases stepped; exact ⟨once.unique, once.dropped⟩
    · cases stepped
  | stop => cases stepped; exact ⟨once.unique, once.dropped⟩
  | beginRecovery lines => cases stepped; exact ⟨once.unique, once.dropped⟩
  | beginReplay lines => cases stepped; exact ⟨once.unique, once.dropped⟩
  | restart => cases stepped; exact ⟨once.unique, once.dropped⟩
  | insert writer fresh outcome => exact once.insert complete stepped

theorem ExactlyOnce.of_empty : ExactlyOnce {} where
  unique := List.nodup_nil
  dropped _ member := nomatch member

/-- In every run whose inserted records are complete, an event has one row at most, and a row is
    dropped only where it is stored already. -/
theorem exactlyOnce_of_complete (events : List PersistEvent)
    (complete : (persistence tables today).Guarded InsertsComplete {} events)
    (ran : (persistence tables today).run {} events = some s') : ExactlyOnce s' :=
  persistence_preserves.run _ .of_empty complete ran

def unpricedRecord (inputTokens : Json) : RequestRecord where
  eventId := some "e1"
  provider := "openai"
  model := .str "local-model"
  inputTokens := inputTokens

theorem exactlyOnce_of_retry : ∃ s', (persistence (fun _ => []) 0).run {}
    [.enqueue (unpricedRecord (.int 7)), .take, .insert .worker [] .interrupted, .stop,
      .insert .flush [] .returns] = some s' ∧ ExactlyOnce s' := by
  have ran : ∃ s', (persistence (fun _ => []) 0).run {}
      [.enqueue (unpricedRecord (.int 7)), .take, .insert .worker [] .interrupted, .stop,
        .insert .flush [] .returns] = some s' := ⟨_, rfl⟩
  obtain ⟨s', ran⟩ := ran
  exact ⟨s', ran, exactlyOnce_of_complete _ (by decide) ran⟩

/-- A count that the provider reports as null makes the insert drop the row without a trace. -/
theorem null_count_dropped : ¬ ∀ tables today events s',
    (persistence tables today).run {} events = some s' → ExactlyOnce s' := by
  intro once
  have ran : ∃ s' call, (persistence (fun _ => []) 0).run {}
      [.insert (.direct (unpricedRecord .null)) [] .returns] = some s' ∧ call ∈ s'.calls ∧
        call.rowId = 0 ∧ call.table = [] := ⟨_, _, rfl, .head _, rfl, rfl⟩
  obtain ⟨s', call, ran, member, ignored, empty⟩ := ran
  have conflict := (once _ _ _ s' ran).dropped call member ignored
  rw [empty] at conflict
  cases conflict

end BurnLens.Storage
