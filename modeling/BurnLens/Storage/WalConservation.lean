import BurnLens.Storage.Wal

/-! # Conservation of appended records

Truncation is safe at the end of a complete recovery.  At shutdown it is safe when that
process replayed every record it found, and when no request task is between its append and
the insert of its record.  An append is safe on a file that ends in a newline.  In every run
that keeps to this, no completed append is lost.
-/

namespace BurnLens.Storage

open Library

namespace Telemetry

variable {Record EventId : Type*} [DecidableEq EventId]
variable (t : Telemetry Record EventId)

section Insert

variable {disk : Disk Record} {record other : Record}

theorem isStored_insertRequest_self : t.isStored (t.insertRequest disk record).stored record := by
  simp only [insertRequest]
  split
  · assumption
  · simp [isStored]

theorem isStored_insertRequest (stored : t.isStored disk.stored other = true) :
    t.isStored (t.insertRequest disk record).stored other = true := by
  simp only [insertRequest]
  split
  · exact stored
  · simp only [isStored] at *
    rw [List.any_append, stored, Bool.true_or]

@[simp] theorem insertRequest_lines : (t.insertRequest disk record).lines = disk.lines := by
  simp only [insertRequest]
  split <;> rfl

@[simp] theorem insertRequest_dlq : (t.insertRequest disk record).dlq = disk.dlq := by
  simp only [insertRequest]
  split <;> rfl

theorem kept_insertRequest (kept : t.Kept disk other) : t.Kept (t.insertRequest disk record) other := by
  simp only [Kept] at *
  rw [insertRequest_lines, insertRequest_dlq]
  exact kept.imp_left t.isStored_insertRequest

end Insert

/-! ## The invariant -/

/-- The step does not truncate what is not stored, nor append to a cut-off line. -/
def Careful (s : State Record) : Event Record → Prop
  | .append _ => s.disk.tail = none
  | .truncate => s.queue = [] ∧ s.inFlight = [] ∧ ∀ line ∈ s.skipped, line.isRecord = false
  | _ => True

instance (s : State Record) (event : Event Record) : Decidable (Careful s event) :=
  match event with
  | .append _ => inferInstanceAs (Decidable (_ = none))
  | .truncate => inferInstanceAs (Decidable (_ ∧ _ ∧ _))
  | .start | .replay _ | .unreadable | .finishRecovery _ | .enqueue _ | .take | .insert _
  | .stop | .flushActive _ | .drain _ | .finishStop | .crash _ => isTrue trivial

/-- The running process will not truncate the log before this record is stored. -/
def Covered (s : State Record) (record : Record) : Prop :=
  t.isStored s.disk.stored record = true ∨ record ∈ s.queue ∨ s.active = some record ∨
    record ∈ s.inFlight ∨ .record record ∈ s.skipped ∨ s.success = false

structure Invariant (s : State Record) : Prop where
  conserved : t.Conserved s
  recovering : ∀ rest, s.process = .recovering rest → ∀ record, .record record ∈ s.disk.lines →
    t.isStored s.disk.stored record = true ∨ .record record ∈ rest
  -- from the end of the recovery to the final truncation
  serving : live s.process = true → s.process = .closing ∨
    ∀ record, .record record ∈ s.disk.lines → t.Covered s record
  flushed : s.process = .draining → s.active = none ∨ s.success = false
  truncating : s.process = .truncating → s.active = none ∧ s.success = true

variable {t} {s s' : State Record}

theorem Invariant.of_start (disk : Disk Record) : t.Invariant (start disk) :=
  ⟨fun _ member => (nomatch member), nofun, nofun, nofun, nofun⟩

theorem Invariant.startProxy (invariant : t.Invariant s) (stepped : Telemetry.startProxy s = some s') :
    t.Invariant s' := by
  simp only [Telemetry.startProxy] at stepped
  split at stepped
  · cases stepped
    refine ⟨invariant.conserved, fun rest same record member => ?_, nofun, nofun, nofun⟩
    -- at the start of a recovery every line of the file is still to be replayed
    cases same
    exact Or.inr (List.mem_append_left _ member)
  · cases stepped

theorem Invariant.serve (invariant : t.Invariant s) {rest : List (Line Record)}
    (recovering : s.process = .recovering rest) :
    t.Invariant { s with process := .serving, skipped := rest } := by
  refine ⟨invariant.conserved, nofun, fun _ => Or.inr fun record member => ?_, nofun, nofun⟩
  obtain stored | unreplayed := invariant.recovering rest recovering record member
  · exact Or.inl stored
  · exact Or.inr (Or.inr (Or.inr (Or.inr (Or.inl unreplayed))))

theorem Invariant.replay (invariant : t.Invariant s) {succeeds : Bool}
    (stepped : t.replay s succeeds = some s') : t.Invariant s' := by
  simp only [Telemetry.replay] at stepped
  split at stepped
  · next record rest recovering =>
    split at stepped
    · cases stepped
      refine ⟨fun other member => t.kept_insertRequest (invariant.conserved other member),
        fun rest' same other member => ?_, nofun, nofun, nofun⟩
      cases same
      rw [insertRequest_lines] at member
      obtain stored | unreplayed := invariant.recovering _ recovering other member
      · exact Or.inl (t.isStored_insertRequest stored)
      · obtain same | unreplayed := List.mem_cons.mp unreplayed
        · cases same
          exact Or.inl t.isStored_insertRequest_self
        · exact Or.inr unreplayed
    -- an insert that fails ends the loop, and what is left counts as skipped
    · cases stepped
      exact invariant.serve recovering
  · next rest recovering =>
    cases stepped
    refine ⟨invariant.conserved, fun rest' same other member => ?_, nofun, nofun, nofun⟩
    cases same
    -- a blank or broken line holds no record
    obtain stored | unreplayed := invariant.recovering _ recovering other member
    · exact Or.inl stored
    · exact Or.inr ((List.mem_cons.mp unreplayed).resolve_left nofun)
  · next rest recovering =>
    cases stepped
    exact invariant.serve recovering
  · cases stepped

theorem Invariant.abandonRecovery (invariant : t.Invariant s)
    (stepped : Telemetry.abandonRecovery s = some s') : t.Invariant s' := by
  simp only [Telemetry.abandonRecovery] at stepped
  split at stepped
  · next rest recovering =>
    cases stepped
    exact invariant.serve recovering
  · cases stepped

theorem Conserved.truncate (conserved : t.Conserved s)
    (stored : ∀ record, .record record ∈ s.disk.lines → t.isStored s.disk.stored record = true) :
    ∀ record ∈ s.completed, t.Kept s.disk.truncate record := by
  intro record member
  obtain kept | line | dead := conserved record member
  · exact Or.inl kept
  · exact Or.inl (stored record line)
  · exact Or.inr (Or.inr dead)

theorem Invariant.finishRecovery (invariant : t.Invariant s) {truncates : Bool}
    (stepped : Telemetry.finishRecovery s truncates = some s') : t.Invariant s' := by
  simp only [Telemetry.finishRecovery] at stepped
  split at stepped
  · next recovering =>
    -- nothing is left to replay, so every record of the file is stored
    have stored : ∀ record, .record record ∈ s.disk.lines →
        t.isStored s.disk.stored record = true := fun record member =>
      (invariant.recovering [] recovering record member).resolve_right nofun
    cases stepped
    cases truncates with
    | true =>
      refine ⟨invariant.conserved.truncate stored, nofun, fun _ => Or.inr nofun, nofun, nofun⟩
    | false =>
      exact ⟨invariant.conserved, nofun,
        fun _ => Or.inr fun record member => Or.inl (stored record member), nofun, nofun⟩
  · cases stepped

theorem Invariant.covered (invariant : t.Invariant s) {process : Process Record}
    (at_ : s.process = process) (running : live process = true) (notClosing : process ≠ .closing)
    {record : Record} (member : .record record ∈ s.disk.lines) : t.Covered s record := by
  subst at_
  exact (invariant.serving running).resolve_left notClosing record member

theorem Invariant.appendEvent (invariant : t.Invariant s) {record : Record}
    (careful : s.disk.tail = none) (stepped : Telemetry.appendEvent s record = some s') :
    t.Invariant s' := by
  simp only [Telemetry.appendEvent] at stepped
  split at stepped
  · next running =>
    cases stepped
    -- a torn last line would swallow the new record
    have lines : (s.disk.append record).lines = s.disk.lines ++ [.record record] := by
      simp [Disk.append, careful]
    have others : (s.disk.append record).stored = s.disk.stored ∧
        (s.disk.append record).dlq = s.disk.dlq := by
      simp [Disk.append, careful]
    refine ⟨fun other member => ?_, fun rest recovering => ?_, fun _ => ?_,
      invariant.flushed, invariant.truncating⟩
    · simp only [Kept]
      rw [lines, others.1, others.2]
      obtain rfl | member := List.mem_cons.mp member
      · exact Or.inr (Or.inl (by simp))
      · exact (invariant.conserved other member).imp_right
          (Or.imp_left (List.mem_append_left _))
    -- requests are served only after the recovery
    · simp only at recovering
      rw [recovering] at running
      cases running
    · refine (invariant.serving running).imp_right fun covered other member => ?_
      simp only [Covered] at *
      rw [others.1]
      rw [lines] at member
      obtain member | member := List.mem_append.mp member
      · exact (covered other member).imp_right (Or.imp_right (Or.imp_right
          (Or.imp_left (List.mem_cons_of_mem _))))
      · cases List.mem_singleton.mp member
        exact Or.inr (Or.inr (Or.inr (Or.inl List.mem_cons_self)))
  · cases stepped

theorem Invariant.take (invariant : t.Invariant s)
    (stepped : Telemetry.take s = some s') : t.Invariant s' := by
  simp only [Telemetry.take] at stepped
  split at stepped
  · next record rest serving idle queued =>
    cases stepped
    refine ⟨invariant.conserved, fun rest recovering => ?_, fun _ => Or.inr fun other member => ?_,
      fun draining => ?_, fun truncating => ?_⟩
    · simp [serving] at recovering
    · have covered := invariant.covered serving rfl nofun member
      -- the record moves from the queue to the worker
      simp only [Covered, idle, queued, List.mem_cons] at covered ⊢
      grind
    · simp [serving] at draining
    · simp [serving] at truncating
  · cases stepped

theorem Invariant.insertRequest (invariant : t.Invariant s) {record : Record}
    {active : Option Record} (same : active = s.active ∨ s.active = some record ∧ active = none)
    {process : Process Record} (at_ : s.process = process) (running : live process = true)
    (notClosing : process ≠ .closing) (next : Process Record)
    (forward : next = .serving ∨ next = .draining ∧ active = none) :
    t.Invariant { s with disk := t.insertRequest s.disk record, active, process := next } := by
  refine ⟨fun other member => t.kept_insertRequest (invariant.conserved other member),
    fun rest recovering => ?_, fun _ => Or.inr fun other member => ?_, fun draining => ?_,
    fun truncating => ?_⟩
  · obtain rfl | ⟨rfl, -⟩ := forward <;> cases recovering
  · rw [insertRequest_lines] at member
    have covered := invariant.covered at_ running notClosing member
    simp only [Covered] at *
    -- only the record that was inserted loses its cover, and that one is stored now
    obtain stored | queued | active_ | rest := covered
    · exact Or.inl (t.isStored_insertRequest stored)
    · exact Or.inr (Or.inl queued)
    · obtain rfl | ⟨own, rfl⟩ := same
      · exact Or.inr (Or.inr (Or.inl active_))
      · rw [own] at active_
        cases active_
        exact Or.inl t.isStored_insertRequest_self
    · exact Or.inr (Or.inr (Or.inr rest))
  · obtain rfl | ⟨-, idle⟩ := forward
    · cases draining
    · exact Or.inl idle
  · obtain rfl | ⟨rfl, -⟩ := forward <;> cases truncating

theorem Invariant.insert (invariant : t.Invariant s) {attempt : Attempt}
    (stepped : t.insert s attempt = some s') : t.Invariant s' := by
  simp only [Telemetry.insert] at stepped
  split at stepped
  · next record serving active =>
    cases attempt with
    | stored =>
      cases stepped
      simpa only [serving] using invariant.insertRequest (Or.inr ⟨active, rfl⟩) serving rfl nofun
        .serving (Or.inl rfl)
    | interrupted =>
      cases stepped
      have inserted : t.Invariant { s with
          disk := t.insertRequest s.disk record, active := s.active, process := .serving } :=
        invariant.insertRequest (Or.inl rfl) serving rfl nofun .serving (Or.inl rfl)
      simpa only [serving] using inserted
    -- the worker keeps the record and will try again
    | raised => cases stepped; exact invariant
  · cases stepped

theorem Invariant.stop (invariant : t.Invariant s)
    (stepped : Telemetry.stop s = some s') : t.Invariant s' := by
  simp only [Telemetry.stop] at stepped
  split at stepped
  · next serving =>
    cases stepped
    exact ⟨invariant.conserved, nofun,
      fun _ => Or.inr fun _ member => invariant.covered serving rfl nofun member, nofun, nofun⟩
  · cases stepped

theorem Invariant.insertFails (invariant : t.Invariant s) (queue : List Record) :
    t.Invariant { s with success := false, queue, process := .draining } :=
  ⟨invariant.conserved, nofun,
    fun _ => Or.inr fun _ _ => Or.inr (Or.inr (Or.inr (Or.inr (Or.inr rfl)))),
    fun _ => Or.inr rfl, nofun⟩

theorem Invariant.flushActive (invariant : t.Invariant s) {succeeds : Bool}
    (stepped : t.flushActive s succeeds = some s') : t.Invariant s' := by
  simp only [Telemetry.flushActive] at stepped
  split at stepped
  · next stopping idle =>
    cases stepped
    exact ⟨invariant.conserved, nofun,
      fun _ => Or.inr fun _ member => invariant.covered stopping rfl nofun member,
      fun _ => Or.inl idle, nofun⟩
  · next record stopping active =>
    split at stepped
    · cases stepped
      exact invariant.insertRequest (Or.inr ⟨active, rfl⟩) stopping rfl nofun .draining
        (Or.inr ⟨rfl, rfl⟩)
    · cases stepped
      exact invariant.insertFails s.queue
  · cases stepped

theorem Invariant.drain (invariant : t.Invariant s) {succeeds : Bool}
    (stepped : t.drain s succeeds = some s') : t.Invariant s' := by
  simp only [Telemetry.drain] at stepped
  split at stepped
  · next record rest draining queued =>
    split at stepped
    · cases stepped
      refine ⟨fun other member => t.kept_insertRequest (invariant.conserved other member),
        fun rest' recovering => ?_, fun _ => Or.inr fun other member => ?_,
        invariant.flushed, fun truncating => ?_⟩
      · simp [draining] at recovering
      · rw [insertRequest_lines] at member
        have covered := invariant.covered draining rfl nofun member
        simp only [Covered] at *
        rw [queued, List.mem_cons] at covered
        obtain stored | (rfl | queued) | others := covered
        · exact Or.inl (t.isStored_insertRequest stored)
        · exact Or.inl t.isStored_insertRequest_self
        · exact Or.inr (Or.inl queued)
        · exact Or.inr (Or.inr others)
      · simp [draining] at truncating
    · cases stepped
      simpa only [draining] using invariant.insertFails rest
  · cases stepped

theorem Invariant.finishStop (invariant : t.Invariant s)
    (stepped : Telemetry.finishStop s = some s') : t.Invariant s' := by
  simp only [Telemetry.finishStop] at stepped
  split at stepped
  · next draining drained =>
    cases stepped
    split
    · next flushed =>
      -- `success` says that no insert of the shutdown failed
      have idle : s.active = none := (invariant.flushed draining).resolve_right (by simp [flushed])
      exact ⟨invariant.conserved, nofun,
        fun _ => Or.inr fun _ member => invariant.covered draining rfl nofun member, nofun,
        fun _ => ⟨idle, flushed⟩⟩
    · exact ⟨invariant.conserved, nofun, fun _ => Or.inl rfl, nofun, nofun⟩
  · cases stepped

theorem Invariant.truncate (invariant : t.Invariant s)
    (careful : s.queue = [] ∧ s.inFlight = [] ∧ ∀ line ∈ s.skipped, line.isRecord = false)
    (stepped : Telemetry.truncate s = some s') : t.Invariant s' := by
  simp only [Telemetry.truncate] at stepped
  split at stepped
  · next truncating =>
    obtain ⟨idle, succeeded⟩ := invariant.truncating truncating
    obtain ⟨drained, landed, replayed⟩ := careful
    have stored : ∀ record, .record record ∈ s.disk.lines →
        t.isStored s.disk.stored record = true := by
      intro record member
      have covered := invariant.covered truncating rfl nofun member
      -- of the places where a record can wait, the guard and the shutdown empty all
      have unskipped : .record record ∉ s.skipped := fun member => nomatch replayed _ member
      simpa [Covered, idle, succeeded, drained, landed, unskipped] using covered
    cases stepped
    exact ⟨invariant.conserved.truncate stored, nofun, fun _ => Or.inl rfl, nofun, nofun⟩
  · cases stepped

theorem Invariant.crash (invariant : t.Invariant s) {written : Option (Line Record)}
    (stepped : Telemetry.crash s written = some s') : t.Invariant s' := by
  -- a crash can only add a torn line
  have keeps : ∀ disk : Disk Record, (disk = s.disk ∨ disk = s.disk.appendPart written) →
      disk.stored = s.disk.stored ∧ disk.lines = s.disk.lines ∧ disk.dlq = s.disk.dlq := by
    rintro disk (rfl | rfl)
    · exact ⟨rfl, rfl, rfl⟩
    · simp only [Disk.appendPart]
      split <;> exact ⟨rfl, rfl, rfl⟩
  simp only [Telemetry.crash] at stepped
  split at stepped
  · cases stepped
  · cases stepped
    obtain ⟨stored, lines, dlq⟩ := keeps
      (if live s.process then s.disk.appendPart written else s.disk) (by split <;> simp)
    refine ⟨fun record member => ?_, nofun, nofun, nofun, nofun⟩
    simp only [Kept]
    rw [stored, lines, dlq]
    exact invariant.conserved record member

variable [DecidableEq Record]

theorem Invariant.enqueue (invariant : t.Invariant s) {record : Record}
    (stepped : t.enqueue s record = some s') : t.Invariant s' := by
  simp only [Telemetry.enqueue] at stepped
  split at stepped
  · next ready =>
    cases stepped
    refine ⟨invariant.conserved, fun rest recovering => ?_, fun running => ?_,
      invariant.flushed, invariant.truncating⟩
    · exact invariant.recovering rest recovering
    · refine (invariant.serving running).imp_right fun covered other member => ?_
      have before := covered other member
      simp only [Covered] at *
      by_cases same : other = record
      -- the record that leaves the flight is in the queue now
      · exact Or.inr (Or.inl (by simp [same]))
      · rw [List.mem_erase_of_ne same]
        exact before.imp_right (Or.imp_left (List.mem_append_left _))
  · cases stepped

theorem Invariant.step (invariant : t.Invariant s) {event : Event Record} (careful : Careful s event)
    (stepped : t.machine.step s event = some s') : t.Invariant s' := by
  cases event with
  | start => exact invariant.startProxy stepped
  | replay => exact invariant.replay stepped
  | unreadable => exact invariant.abandonRecovery stepped
  | finishRecovery => exact invariant.finishRecovery stepped
  | append => exact invariant.appendEvent careful stepped
  | enqueue => exact invariant.enqueue stepped
  | take => exact invariant.take stepped
  | insert => exact invariant.insert stepped
  | stop => exact invariant.stop stepped
  | flushActive => exact invariant.flushActive stepped
  | drain => exact invariant.drain stepped
  | finishStop => exact invariant.finishStop stepped
  | truncate => exact invariant.truncate careful stepped
  | crash => exact invariant.crash stepped

/-- WAL conservation: whatever the disk held at first, in every state of a careful run. -/
theorem wal_conserves (t : Telemetry Record EventId) (disk : Disk Record)
    (schedule : List (Event Record)) (s : State Record)
    (careful : t.machine.Guarded Careful (start disk) schedule)
    (ran : t.machine.run (start disk) schedule = some s) : t.Conserved s :=
  have preserves : t.machine.Preserves Careful t.Invariant :=
    fun _ _ _ invariant careful stepped => invariant.step careful stepped
  (preserves.run t.machine (Invariant.of_start disk) careful ran).conserved

end Telemetry

section FailedRecovery

def numbered : Telemetry Nat Nat where
  eventId := id
  queueSize := 1000

def emptyDisk : Disk Nat := ⟨[], none, [], []⟩

/-- Record 7 is appended before a crash; the next process cannot insert it during its
    recovery, and shuts down cleanly. -/
def crashThenFailedRecovery : List (Event Nat) :=
  [.start, .finishRecovery true, .append 7, .crash none, .start, .replay false, .stop,
   .flushActive true, .finishStop, .truncate]

theorem failed_recovery_loses_record :
    ∃ s, numbered.machine.run (Telemetry.start emptyDisk) crashThenFailedRecovery = some s ∧
      ¬ numbered.Conserved s := by
  refine ⟨_, rfl, fun conserved => ?_⟩
  have kept := conserved 7 (List.mem_singleton.mpr rfl)
  exact absurd kept (by decide)

def crashThenRecovery : List (Event Nat) :=
  [.start, .finishRecovery true, .append 7, .crash none, .start, .replay true,
   .finishRecovery true, .append 8, .enqueue 8, .take, .insert .raised, .stop,
   .flushActive true, .finishStop, .truncate]

theorem recovery_conserves :
    ∃ s, numbered.machine.run (Telemetry.start emptyDisk) crashThenRecovery = some s ∧
      numbered.Conserved s :=
  ⟨_, rfl, numbered.wal_conserves emptyDisk crashThenRecovery _
    (by decide) rfl⟩

end FailedRecovery

end BurnLens.Storage
