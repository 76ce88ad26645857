import BurnLens.Library.Machine
import Mathlib.Data.List.Basic

/-! # The write-ahead log

`WriteAheadLog`, `SQLitePersistenceWorker` and `recover_wal` across restarts of the proxy:
what the lifespan of the server does in order, and the appends and enqueues that request
tasks may run at any await of it.  The lock of the log keeps appends and truncations apart,
so each of them is one step.
-/

namespace BurnLens.Storage

open Library

/-- A line of the file, by what `read_events` makes of it. -/
inductive Line (Record : Type*) where
  | record (record : Record)
  -- not JSON: skipped with a warning
  | corrupt
  -- JSON, but not a record: the reader raises
  | malformed
deriving DecidableEq

def Line.isRecord {Record : Type*} : Line Record → Bool
  | record _ => true
  | _ => false

inductive Process (Record : Type*) where
  | down
  -- `recover_wal` with the lines that it has not replayed
  | recovering (rest : List (Line Record))
  | serving
  -- `worker.stop`, before and after it has persisted the active record
  | stopping
  | draining
  -- about to call `wal.truncate`
  | truncating
  | closing

structure Disk (Record : Type*) where
  lines : List (Line Record)
  -- what follows the last newline: an append that a crash cut short
  tail : Option (Line Record)
  dlq : List (Line Record)
  -- the requests table
  stored : List Record

structure State (Record : Type*) where
  disk : Disk Record
  process : Process Record
  queue : List Record
  active : Option Record
  -- appended, and not enqueued yet
  inFlight : List Record
  -- no insert has failed since `worker.stop`
  success : Bool
  -- what the recovery of this process left unreplayed
  skipped : List (Line Record)
  -- every record whose `append_event` has completed, in any process
  completed : List Record

/-- How an insert ends; an interrupted one has stored the record, but was cancelled before
    the worker could note it. -/
inductive Attempt where
  | stored
  | raised
  | interrupted

inductive Event (Record : Type*) where
  | start
  | replay (succeeds : Bool)
  -- the file cannot be read
  | unreadable
  | finishRecovery (truncates : Bool)
  | append (record : Record)
  | enqueue (record : Record)
  | take
  | insert (attempt : Attempt)
  | stop
  | flushActive (succeeds : Bool)
  | drain (succeeds : Bool)
  | finishStop
  | truncate
  -- the process ends, and may leave part of a line behind
  | crash (written : Option (Line Record))

/-- The records, their `event_id`, and the capacity of the worker's queue. -/
structure Telemetry (Record EventId : Type*) where
  eventId : Record → EventId
  queueSize : Nat

namespace Disk

variable {Record : Type*} (disk : Disk Record)

def readLines : List (Line Record) := disk.lines ++ disk.tail.toList

/-- `_sync_append`: after a cut-off line, the two make one line that is not JSON. -/
def append (record : Record) : Disk Record :=
  match disk.tail with
  | none => { disk with lines := disk.lines ++ [.record record] }
  | some _ => { disk with lines := disk.lines ++ [.corrupt], tail := none }

def truncate : Disk Record := { disk with lines := [], tail := none }

def appendPart (written : Option (Line Record)) : Disk Record :=
  match written, disk.tail with
  | none, _ => disk
  | some part, none => { disk with tail := some part }
  | some _, some _ => { disk with tail := some .corrupt }

end Disk

namespace Telemetry

variable {Record EventId : Type*} [DecidableEq Record] [DecidableEq EventId]
variable (t : Telemetry Record EventId)

def isStored (stored : List Record) (record : Record) : Bool :=
  stored.any fun other => t.eventId other = t.eventId record

def insertRequest (disk : Disk Record) (record : Record) : Disk Record :=
  if t.isStored disk.stored record then disk
  else { disk with stored := disk.stored ++ [record] }

/-! ## The steps of a process -/

/-- The proxy starts: `recover_wal` reads the file once. -/
def startProxy (s : State Record) : Option (State Record) :=
  match s.process with
  | .down =>
    some { s with process := .recovering s.disk.readLines, queue := [], active := none,
                  inFlight := [], success := true, skipped := [] }
  | _ => none

/-- One line of `recover_wal`.  Its exceptions are logged, and the proxy serves all the
    same. -/
def replay (s : State Record) (succeeds : Bool) : Option (State Record) :=
  match s.process with
  | .recovering (.record record :: rest) =>
    if succeeds then
      some { s with disk := t.insertRequest s.disk record, process := .recovering rest }
    else some { s with process := .serving, skipped := .record record :: rest }
  | .recovering (.corrupt :: rest) => some { s with process := .recovering rest }
  | .recovering (.malformed :: rest) =>
    some { s with process := .serving, skipped := .malformed :: rest }
  | _ => none

def abandonRecovery (s : State Record) : Option (State Record) :=
  match s.process with
  | .recovering rest => some { s with process := .serving, skipped := rest }
  | _ => none

def finishRecovery (s : State Record) (truncates : Bool) : Option (State Record) :=
  match s.process with
  | .recovering [] =>
    some { s with disk := if truncates then s.disk.truncate else s.disk, process := .serving }
  | _ => none

def live : Process Record → Bool
  | .serving | .stopping | .draining | .truncating | .closing => true
  | _ => false

def appendEvent (s : State Record) (record : Record) : Option (State Record) :=
  if live s.process then
    some { s with disk := s.disk.append record, inFlight := record :: s.inFlight,
                  completed := record :: s.completed }
  else none

/-- `queue.put` waits while the queue is full. -/
def enqueue (s : State Record) (record : Record) : Option (State Record) :=
  if live s.process ∧ record ∈ s.inFlight ∧ s.queue.length < t.queueSize then
    some { s with inFlight := s.inFlight.erase record, queue := s.queue ++ [record] }
  else none

def take (s : State Record) : Option (State Record) :=
  match s.process, s.active, s.queue with
  | .serving, none, record :: rest => some { s with active := some record, queue := rest }
  | _, _, _ => none

def insert (s : State Record) (attempt : Attempt) : Option (State Record) :=
  match s.process, s.active with
  | .serving, some record =>
    match attempt with
    | .stored => some { s with disk := t.insertRequest s.disk record, active := none }
    | .interrupted => some { s with disk := t.insertRequest s.disk record }
    | .raised => some s
  | _, _ => none

def stop (s : State Record) : Option (State Record) :=
  match s.process with
  | .serving => some { s with process := .stopping }
  | _ => none

def flushActive (s : State Record) (succeeds : Bool) : Option (State Record) :=
  match s.process, s.active with
  | .stopping, none => some { s with process := .draining }
  | .stopping, some record =>
    if succeeds then
      some { s with disk := t.insertRequest s.disk record, active := none, process := .draining }
    else some { s with success := false, process := .draining }
  | _, _ => none

def drain (s : State Record) (succeeds : Bool) : Option (State Record) :=
  match s.process, s.queue with
  | .draining, record :: rest =>
    if succeeds then some { s with disk := t.insertRequest s.disk record, queue := rest }
    else some { s with success := false, queue := rest }
  | _, _ => none

/-- `stop` returns: the log is truncated only if every insert succeeded. -/
def finishStop (s : State Record) : Option (State Record) :=
  match s.process, s.queue with
  | .draining, [] => some { s with process := if s.success then .truncating else .closing }
  | _, _ => none

def truncate (s : State Record) : Option (State Record) :=
  match s.process with
  | .truncating => some { s with disk := s.disk.truncate, process := .closing }
  | _ => none

def crash (s : State Record) (written : Option (Line Record)) : Option (State Record) :=
  match s.process with
  | .down => none
  | process =>
    some { s with disk := if live process then s.disk.appendPart written else s.disk,
                  process := .down }

def machine : Machine (State Record) (Event Record) where
  step s
    | .start => startProxy s
    | .replay succeeds => t.replay s succeeds
    | .unreadable => abandonRecovery s
    | .finishRecovery truncates => finishRecovery s truncates
    | .append record => appendEvent s record
    | .enqueue record => t.enqueue s record
    | .take => take s
    | .insert attempt => t.insert s attempt
    | .stop => stop s
    | .flushActive succeeds => t.flushActive s succeeds
    | .drain succeeds => t.drain s succeeds
    | .finishStop => finishStop s
    | .truncate => truncate s
    | .crash written => crash s written

def start (disk : Disk Record) : State Record :=
  ⟨disk, .down, [], none, [], true, [], []⟩

/-- A record is in the requests table, or a line of one of the two files. -/
def Kept (disk : Disk Record) (record : Record) : Prop :=
  t.isStored disk.stored record = true ∨ .record record ∈ disk.lines ∨ .record record ∈ disk.dlq

instance (disk : Disk Record) (record : Record) : Decidable (t.Kept disk record) :=
  inferInstanceAs (Decidable (_ ∨ _ ∨ _))

def Conserved (s : State Record) : Prop :=
  ∀ record ∈ s.completed, t.Kept s.disk record

end Telemetry

end BurnLens.Storage
