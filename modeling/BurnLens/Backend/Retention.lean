import BurnLens.Library.Machine
import BurnLens.Library.Text
import Mathlib.Data.List.Perm.Subperm
import Mathlib.Data.List.Nodup

/-! # Retention

A run of `_run_prune_once`, cut into its statements, while requests arrive, plans change and any
statement may fail.  Which of the expired rows a batch takes is the database's choice.
-/

namespace BurnLens.Backend

open Library

/-! ## The tables -/

/-- A row of `request_records`, as far as retention goes. -/
structure RequestRow where
  id : Nat
  workspaceId : Str
  ts : Int
deriving DecidableEq

/-- What `resolve_limits` returns. -/
structure PlanLimits where
  retentionDays : Option Int := none

/-- What a run did to a workspace. -/
inductive Prune where
  -- without limits, without a limit of days, or with 0
  | skipped
  | failed
  -- the batches, until one that is not full at `now()`
  | finished (days : Int) (now : Int) (deleted : Nat)
deriving DecidableEq

def Prune.deleted : Prune → Nat
  | .finished _ _ deleted => deleted
  | _ => 0

inductive PruneLog where
  | listed (workspaces : List Str)
  | arrived (row : RequestRow)
  | deleted (workspaceId : Str) (days : Int) (now : Int) (rows : List RequestRow)
  | done (workspaceId : Str) (prune : Prune)

inductive PrunePhase where
  -- `SELECT id FROM workspaces WHERE active = true`
  | listing
  -- `resolve_limits` of the first
  | resolving (workspaces : List Str)
  | deleting (workspaceId : Str) (days : Int) (deleted : Nat) (workspaces : List Str)
  | ended

structure PruneState where
  now : Int
  rows : List RequestRow
  active : List Str
  limits : Str → Option PlanLimits
  phase : PrunePhase := .listing
  totalDeleted : Nat := 0
  failed : Nat := 0
  -- the newest first
  log : List PruneLog := []

/-! ## The loop -/

def batchSize : Nat := 10000

def dayLength : Int := 86400000000

/-- `workspace_id = $1 AND ts < (NOW() - make_interval(days => $2))`. -/
def RequestRow.expired (row : RequestRow) (workspaceId : Str) (days now : Int) : Bool :=
  row.workspaceId = workspaceId && row.ts < now - days * dayLength

inductive PruneLabel where
  -- the statement, with the rows that its `LIMIT` lets through
  | advance (picked : List RequestRow)
  -- the statement raises and has done nothing
  | raise
  -- the batch is deleted, and the answer does not arrive
  | lose (picked : List RequestRow)
  | arrive (row : RequestRow)
  | meanwhile (now : Int) (active : List Str) (limits : Str → Option PlanLimits)

namespace PruneState

variable (s : PruneState)

/-- The end of `_prune_workspace`, or its exception. -/
def leave (workspaceId : Str) (prune : Prune) (workspaces : List Str) : PruneState :=
  { s with
    phase := .resolving workspaces
    totalDeleted := s.totalDeleted + prune.deleted
    failed := s.failed + if prune = .failed then 1 else 0
    log := .done workspaceId prune :: s.log }

def deleteRows (workspaceId : Str) (days : Int) (picked : List RequestRow) : PruneState :=
  { s with
    rows := s.rows.filter fun row => row ∉ picked
    log := .deleted workspaceId days s.now picked :: s.log }

/-- The rows of a batch are expired, and as many as there are up to the limit. -/
def Batch (workspaceId : Str) (days : Int) (picked : List RequestRow) : Prop :=
  picked.Nodup ∧ (∀ row ∈ picked, row ∈ s.rows ∧ row.expired workspaceId days s.now = true) ∧
    picked.length = min batchSize (s.rows.countP fun row => row.expired workspaceId days s.now)

instance (workspaceId : Str) (days : Int) (picked : List RequestRow) :
    Decidable (s.Batch workspaceId days picked) := inferInstanceAs (Decidable (_ ∧ _ ∧ _))

def advance (picked : List RequestRow) : Option PruneState :=
  match s.phase with
  | .listing => some { s with phase := .resolving s.active, log := .listed s.active :: s.log }
  | .resolving [] => some { s with phase := .ended }
  | .resolving (workspaceId :: workspaces) =>
    match (s.limits workspaceId).bind PlanLimits.retentionDays with
    | none => some (s.leave workspaceId .skipped workspaces)
    | some days =>
      if days = 0 then some (s.leave workspaceId .skipped workspaces)
      else some { s with phase := .deleting workspaceId days 0 workspaces }
  | .deleting workspaceId days deleted workspaces =>
    if s.Batch workspaceId days picked then
      let s' := s.deleteRows workspaceId days picked
      if picked.length < batchSize then
        some (s'.leave workspaceId (.finished days s.now (deleted + picked.length)) workspaces)
      else some { s' with phase := .deleting workspaceId days (deleted + picked.length) workspaces }
    else none
  | .ended => none

/-- An exception leaves the workspace, or the run where it comes from the list of workspaces. -/
def raise : Option PruneState :=
  match s.phase with
  | .listing => some { s with phase := .ended }
  | .resolving (workspaceId :: workspaces) | .deleting workspaceId _ _ workspaces =>
    some (s.leave workspaceId .failed workspaces)
  | _ => none

def lose (picked : List RequestRow) : Option PruneState :=
  match s.phase with
  | .deleting workspaceId days _ workspaces =>
    if s.Batch workspaceId days picked then
      some ((s.deleteRows workspaceId days picked).leave workspaceId .failed workspaces)
    else none
  | _ => none

def step : PruneLabel → Option PruneState
  | .advance picked => s.advance picked
  | .raise => s.raise
  | .lose picked => s.lose picked
  | .arrive row =>
    if s.rows.any fun other => other.id = row.id then none
    else some { s with rows := row :: s.rows, log := .arrived row :: s.log }
  | .meanwhile now active limits => some { s with now, active, limits }

end PruneState

def pruneMachine : Machine PruneState PruneLabel where
  step := PruneState.step

/-! ## What the history says -/

def arrivedRows (log : List PruneLog) : List RequestRow :=
  log.flatMap fun
    | .arrived row => [row]
    | _ => []

def deletedRows (log : List PruneLog) : List RequestRow :=
  log.flatMap fun
    | .deleted _ _ _ rows => rows
    | _ => []

def prunes (log : List PruneLog) : List (Str × Prune) :=
  log.filterMap fun
    | .done workspaceId prune => some (workspaceId, prune)
    | _ => none

def pruneFailures (log : List PruneLog) : Nat := (prunes log).countP fun prune => prune.2 = .failed

/-- A row that had expired when its workspace was finished has arrived since. -/
def Cleared (rows : List RequestRow) (log : List PruneLog) : Prop :=
  ∀ later workspaceId days now deleted earlier,
    log = later ++ .done workspaceId (.finished days now deleted) :: earlier →
    ∀ row ∈ rows, row.expired workspaceId days now = true → row ∈ arrivedRows later

/-- What a deletion may take, in one statement. -/
def Deletable : PruneLog → Prop
  | .deleted workspaceId days now rows =>
    days ≠ 0 ∧ rows.length ≤ batchSize ∧ ∀ row ∈ rows, row.expired workspaceId days now = true
  | _ => True

/-- The rows against what has happened to them. -/
structure TableHistory (start rows : List RequestRow) (log : List PruneLog) : Prop where
  ids : (rows.map RequestRow.id).Nodup
  conserved : (rows ++ deletedRows log).Perm (start ++ arrivedRows log)
  deletable : ∀ entry ∈ log, Deletable entry
  cleared : Cleared rows log

theorem mem_arrivedRows_cons {entry : PruneLog} {log : List PruneLog} {row : RequestRow}
    (member : row ∈ arrivedRows log) : row ∈ arrivedRows (entry :: log) :=
  List.mem_append_right _ member

theorem Cleared.cons {rows rows' : List RequestRow} {log : List PruneLog} {entry : PruneLog}
    (old : Cleared rows log) (kept : ∀ row ∈ rows', row ∈ rows ∨ entry = .arrived row)
    (new : ∀ workspaceId days now deleted, entry = .done workspaceId (.finished days now deleted) →
      ∀ row ∈ rows', row.expired workspaceId days now = false) : Cleared rows' (entry :: log) := by
  intro later workspaceId days now deleted earlier split row member expired
  cases later with
  | nil =>
    cases split
    rw [new workspaceId days now deleted rfl row member] at expired
    cases expired
  | cons head later =>
    obtain ⟨rfl, rest⟩ := List.cons.inj split
    cases kept row member with
    | inl before =>
      exact mem_arrivedRows_cons (old later workspaceId days now deleted earlier rest row before expired)
    | inr arrived =>
      rw [arrived]
      exact List.mem_append_left _ List.mem_cons_self

namespace TableHistory

variable {start rows : List RequestRow} {log : List PruneLog}

theorem note (history : TableHistory start rows log) {entry : PruneLog}
    (arrived : arrivedRows [entry] = []) (deleted : deletedRows [entry] = []) (fits : Deletable entry)
    (new : ∀ workspaceId days now deleted, entry = .done workspaceId (.finished days now deleted) →
      ∀ row ∈ rows, row.expired workspaceId days now = false) :
    TableHistory start rows (entry :: log) where
  ids := history.ids
  conserved := by
    have same : arrivedRows ([entry] ++ log) = arrivedRows [entry] ++ arrivedRows log :=
      List.flatMap_append
    have also : deletedRows ([entry] ++ log) = deletedRows [entry] ++ deletedRows log :=
      List.flatMap_append
    rw [← List.singleton_append, same, also, arrived, deleted]
    exact history.conserved
  deletable := List.forall_mem_cons.mpr ⟨fits, history.deletable⟩
  cleared := history.cleared.cons (fun row member => .inl member) new

theorem arrive (history : TableHistory start rows log) {row : RequestRow}
    (fresh : row.id ∉ rows.map RequestRow.id) :
    TableHistory start (row :: rows) (.arrived row :: log) where
  ids := List.nodup_cons.mpr ⟨fresh, history.ids⟩
  conserved := by
    show (row :: (rows ++ deletedRows log)).Perm (start ++ row :: arrivedRows log)
    exact (history.conserved.cons row).trans List.perm_middle.symm
  deletable := List.forall_mem_cons.mpr ⟨trivial, history.deletable⟩
  cleared := by
    apply history.cleared.cons
    · intro other member
      cases member with
      | head => exact .inr rfl
      | tail _ before => exact .inl before
    · intro workspaceId days now deleted same
      cases same

theorem delete (history : TableHistory start rows log) {workspaceId : Str} {days now : Int}
    {picked : List RequestRow} (some_ : days ≠ 0) (few : picked.length ≤ batchSize) (once : picked.Nodup)
    (taken : ∀ row ∈ picked, row ∈ rows ∧ row.expired workspaceId days now = true) :
    TableHistory start (rows.filter fun row => row ∉ picked)
      (.deleted workspaceId days now picked :: log) where
  ids := history.ids.sublist (List.filter_sublist.map _)
  conserved := by
    have distinct : rows.Nodup := history.ids.of_map _
    have theirs : (rows.filter fun row => row ∈ picked).Perm picked := by
      rw [List.perm_ext_iff_of_nodup (distinct.filter _) once]
      intro row
      rw [List.mem_filter, decide_eq_true_eq]
      exact ⟨And.right, fun member => ⟨(taken row member).1, member⟩⟩
    have others : (fun row => !decide (row ∈ picked)) = fun row => decide (row ∉ picked) := by
      funext row
      exact decide_not.symm
    have parts := List.filter_append_perm (fun row => decide (row ∈ picked)) rows
    rw [others] at parts
    have split : ((rows.filter fun row => row ∉ picked) ++ picked).Perm rows :=
      List.perm_append_comm.trans ((theirs.symm.append_right _).trans parts)
    calc ((rows.filter fun row => row ∉ picked) ++ (picked ++ deletedRows log)).Perm
          (((rows.filter fun row => row ∉ picked) ++ picked) ++ deletedRows log) := by
            rw [List.append_assoc]
      _ |>.Perm (rows ++ deletedRows log) := split.append_right _
      _ |>.Perm (start ++ arrivedRows log) := history.conserved
  deletable := List.forall_mem_cons.mpr
    ⟨⟨some_, few, fun row member => (taken row member).2⟩, history.deletable⟩
  cleared := by
    apply history.cleared.cons
    · exact fun row member => .inl (List.mem_of_mem_filter member)
    · intro _ _ _ _ same
      cases same

end TableHistory

/-- A batch that is not full leaves no expired row: the rows it takes are all that there are. -/
theorem none_left {s : PruneState} {workspaceId : Str} {days : Int} {picked : List RequestRow}
    (batch : s.Batch workspaceId days picked) (few : picked.length < batchSize) :
    ∀ row ∈ s.rows.filter fun row => row ∉ picked, row.expired workspaceId days s.now = false := by
  obtain ⟨once, taken, full⟩ := batch
  have number : (s.rows.filter fun row => row.expired workspaceId days s.now).length = picked.length := by
    rw [← List.countP_eq_length_filter]
    omega
  have within : picked.Subperm (s.rows.filter fun row => row.expired workspaceId days s.now) :=
    List.subperm_of_subset once fun row member => List.mem_filter.mpr (taken row member)
  have same := within.perm_of_length_le number.le
  intro row member
  obtain ⟨present, kept⟩ := List.mem_filter.mp member
  rw [Bool.eq_false_iff]
  intro expired
  exact of_decide_eq_true kept (same.mem_iff.mpr (List.mem_filter.mpr ⟨present, expired⟩))

/-! ## What a step does -/

def remaining : PrunePhase → List Str
  | .resolving workspaces => workspaces
  | .deleting workspaceId _ _ workspaces => workspaceId :: workspaces
  | _ => []

/-- What the batches of the workspace at hand have deleted. -/
def pendingRows : PrunePhase → Nat
  | .deleting _ _ deleted _ => deleted
  | _ => 0

theorem pendingRows_of_remaining {phase : PrunePhase} (empty : remaining phase = []) :
    pendingRows phase = 0 := by
  cases phase with
  | deleting => cases empty
  | _ => rfl

namespace PruneState

def batched (s : PruneState) (workspaceId : Str) (days : Int) (deleted : Nat) (picked : List RequestRow)
    (workspaces : List Str) : PruneState :=
  { s.deleteRows workspaceId days picked with
    phase := .deleting workspaceId days (deleted + picked.length) workspaces }

/-- The steps, by what they do to the rows. -/
inductive Effect (s : PruneState) : PruneState → Prop where
  | list (unlisted : s.phase = .listing) :
      Effect s { s with phase := .resolving s.active, log := .listed s.active :: s.log }
  | stop (empty : remaining s.phase = []) : Effect s { s with phase := .ended }
  | skip {workspaceId workspaces} (first : s.phase = .resolving (workspaceId :: workspaces)) :
      Effect s (s.leave workspaceId .skipped workspaces)
  | fail {workspaceId workspaces} (first : remaining s.phase = workspaceId :: workspaces) :
      Effect s (s.leave workspaceId .failed workspaces)
  | begin {workspaceId workspaces days} (first : s.phase = .resolving (workspaceId :: workspaces))
      (limited : (s.limits workspaceId).bind PlanLimits.retentionDays = some days) (some_ : days ≠ 0) :
      Effect s { s with phase := .deleting workspaceId days 0 workspaces }
  | batch {workspaceId days deleted workspaces picked}
      (here : s.phase = .deleting workspaceId days deleted workspaces)
      (batch : s.Batch workspaceId days picked) :
      Effect s (s.batched workspaceId days deleted picked workspaces)
  | last {workspaceId days deleted workspaces picked}
      (here : s.phase = .deleting workspaceId days deleted workspaces)
      (batch : s.Batch workspaceId days picked) (few : picked.length < batchSize) :
      Effect s ((s.batched workspaceId days deleted picked workspaces).leave workspaceId
        (.finished days s.now (deleted + picked.length)) workspaces)
  | lost {workspaceId days deleted workspaces picked}
      (here : s.phase = .deleting workspaceId days deleted workspaces)
      (batch : s.Batch workspaceId days picked) :
      Effect s ((s.batched workspaceId days deleted picked workspaces).leave workspaceId .failed
        workspaces)
  | arrive {row : RequestRow} (fresh : row.id ∉ s.rows.map RequestRow.id) :
      Effect s { s with rows := row :: s.rows, log := .arrived row :: s.log }

variable {s s' : PruneState} {picked : List RequestRow}

theorem advance_effect (advanced : s.advance picked = some s') : Effect s s' := by
  simp only [advance] at advanced
  split at advanced
  · next unlisted =>
    cases advanced
    exact .list unlisted
  · next empty =>
    cases advanced
    exact .stop (by rw [empty]; rfl)
  · next first =>
    split at advanced
    · cases advanced
      exact .skip first
    · next days limited =>
      split at advanced
      · cases advanced
        exact .skip first
      · next some_ =>
        cases advanced
        exact .begin first limited some_
  · next here =>
    split at advanced
    · next batch =>
      split at advanced
      · next few =>
        cases advanced
        exact .last here batch few
      · cases advanced
        exact .batch here batch
    · cases advanced
  · cases advanced

theorem raise_effect (raised : s.raise = some s') : Effect s s' := by
  simp only [raise] at raised
  split at raised
  · next unlisted =>
    cases raised
    exact .stop (by rw [unlisted]; rfl)
  · next first =>
    cases raised
    exact .fail (by rw [first]; rfl)
  · next first =>
    cases raised
    exact .fail (by rw [first]; rfl)
  · cases raised

theorem lose_effect (lost : s.lose picked = some s') : Effect s s' := by
  simp only [lose] at lost
  split at lost
  · next here =>
    split at lost
    · next batch =>
      cases lost
      exact .lost here batch
    · cases lost
  · cases lost

theorem step_cases {l : PruneLabel} (stepped : s.step l = some s') :
    Effect s s' ∨ ∃ now active limits,
      l = .meanwhile now active limits ∧ s' = { s with now, active, limits } := by
  cases l with
  | advance picked => exact .inl (advance_effect stepped)
  | raise => exact .inl (raise_effect stepped)
  | lose picked => exact .inl (lose_effect stepped)
  | arrive row =>
    simp only [step] at stepped
    split at stepped
    · cases stepped
    · next fresh =>
      cases stepped
      exact .inl (.arrive (by simpa using fresh))
  | meanwhile now active limits =>
    cases stepped
    exact .inr ⟨now, active, limits, rfl, rfl⟩

theorem Effect.limits (effect : s.Effect s') : s'.limits = s.limits := by
  cases effect <;> rfl

end PruneState

/-! ## What a run keeps -/

def DaysLimited : PrunePhase → Prop
  | .deleting _ days _ _ => days ≠ 0
  | _ => True

/-- The counters and the phase against the history. -/
structure Progress (s : PruneState) : Prop where
  due : DaysLimited s.phase
  unlisted : s.phase = .listing → prunes s.log = [] ∧ ∀ workspaces, .listed workspaces ∉ s.log
  failed : s.failed = pruneFailures s.log
  counted : s.totalDeleted + pendingRows s.phase ≤ (deletedRows s.log).length
  all : s.failed = 0 → s.totalDeleted + pendingRows s.phase = (deletedRows s.log).length
  listed : ∀ workspaces, .listed workspaces ∈ s.log →
    (prunes s.log).reverse.map Prod.fst ++ remaining s.phase = workspaces

namespace Progress

variable {s : PruneState}

theorem leave (progress : Progress s) {workspaceId : Str} {prune : Prune} {workspaces : List Str}
    (first : remaining s.phase = workspaceId :: workspaces)
    (counts : prune = .failed ∨ prune ≠ .failed ∧ prune.deleted = pendingRows s.phase) :
    Progress (s.leave workspaceId prune workspaces) where
  due := trivial
  unlisted same := by cases same
  failed := by
    show s.failed + (if prune = .failed then 1 else 0) = pruneFailures (.done workspaceId prune :: s.log)
    rw [progress.failed]
    simp [pruneFailures, prunes, List.countP_cons]
  counted := by
    show s.totalDeleted + prune.deleted + 0 ≤ (deletedRows s.log).length
    have before := progress.counted
    rcases counts with rfl | ⟨-, counts⟩
    · show s.totalDeleted + 0 + 0 ≤ _
      omega
    · omega
  all none_ := by
    show s.totalDeleted + prune.deleted + 0 = (deletedRows s.log).length
    have failed : s.failed + (if prune = .failed then 1 else 0) = 0 := none_
    rcases counts with rfl | ⟨apart, counts⟩
    · rw [if_pos rfl] at failed
      omega
    · rw [if_neg apart] at failed
      have before := progress.all failed
      omega
  listed all member := by
    have before := progress.listed all (by simpa [PruneState.leave] using member)
    rw [first] at before
    show (prunes (.done workspaceId prune :: s.log)).reverse.map Prod.fst ++ workspaces = all
    rw [show prunes (.done workspaceId prune :: s.log) = (workspaceId, prune) :: prunes s.log from rfl,
      List.reverse_cons, List.map_append, List.append_assoc]
    exact before

theorem batched (progress : Progress s) {workspaceId : Str} {days : Int} {deleted : Nat}
    {picked : List RequestRow} {workspaces : List Str}
    (here : s.phase = .deleting workspaceId days deleted workspaces) :
    Progress (s.batched workspaceId days deleted picked workspaces) where
  due := by
    have before := progress.due
    rwa [here] at before
  unlisted same := by cases same
  failed := progress.failed
  counted := by
    show s.totalDeleted + (deleted + picked.length) ≤ (picked ++ deletedRows s.log).length
    have before := progress.counted
    rw [here] at before
    rw [List.length_append]
    simp only [pendingRows] at before
    omega
  all failed := by
    show s.totalDeleted + (deleted + picked.length) = (picked ++ deletedRows s.log).length
    have before := progress.all failed
    rw [here] at before
    rw [List.length_append]
    simp only [pendingRows] at before
    omega
  listed all member := by
    have before := progress.listed all (by simpa [PruneState.batched, PruneState.deleteRows] using member)
    rw [here] at before
    exact before

theorem effect (progress : Progress s) {s' : PruneState} (effect : s.Effect s') : Progress s' := by
  cases effect with
  | list unlisted =>
    obtain ⟨clean, never⟩ := progress.unlisted unlisted
    have counted := progress.counted
    have all := progress.all
    rw [unlisted] at counted all
    refine ⟨trivial, fun same => (by cases same), progress.failed, counted, all, ?_⟩
    intro all member
    have active : all = s.active := by simpa [never] using member
    show (prunes s.log).reverse.map Prod.fst ++ s.active = all
    rw [clean, active]
    rfl
  | stop empty =>
    have counted := progress.counted
    have all := progress.all
    have listed := progress.listed
    rw [pendingRows_of_remaining empty] at counted all
    rw [empty] at listed
    exact ⟨trivial, fun same => (by cases same), progress.failed, counted, all, listed⟩
  | skip first =>
    apply progress.leave
    · rw [first]
      rfl
    · right
      rw [first]
      exact ⟨by decide, rfl⟩
  | fail first => exact progress.leave first (.inl rfl)
  | begin first _ some_ =>
    have counted := progress.counted
    have all := progress.all
    have listed := progress.listed
    rw [first] at counted all listed
    exact ⟨some_, fun same => (by cases same), progress.failed, counted, all, listed⟩
  | batch here _ => exact progress.batched here
  | last here _ _ => exact (progress.batched here).leave rfl (.inr ⟨by simp, rfl⟩)
  | lost here _ => exact (progress.batched here).leave rfl (.inl rfl)
  | arrive _ =>
    refine ⟨progress.due, fun same => ?_, progress.failed, progress.counted, progress.all, ?_⟩
    · obtain ⟨clean, never⟩ := progress.unlisted same
      exact ⟨clean, by simpa using never⟩
    · intro all member
      exact progress.listed all (by simpa using member)

end Progress

theorem TableHistory.effect {start : List RequestRow} {s s' : PruneState}
    (history : TableHistory start s.rows s.log) (progress : Progress s) (effect : s.Effect s') :
    TableHistory start s'.rows s'.log := by
  have plain {workspaceId : Str} {prune : Prune}
      (unfinished : ∀ days now deleted, prune ≠ .finished days now deleted) :
      TableHistory start s.rows (.done workspaceId prune :: s.log) := by
    apply history.note rfl rfl (by trivial)
    intro _ days now deleted same
    cases same
    exact absurd rfl (unfinished days now deleted)
  have less {workspaceId : Str} {days : Int} {deleted : Nat} {workspaces : List Str}
      {picked : List RequestRow} (here : s.phase = .deleting workspaceId days deleted workspaces)
      (batch : s.Batch workspaceId days picked) :
      TableHistory start (s.rows.filter fun row => row ∉ picked)
        (.deleted workspaceId days s.now picked :: s.log) := by
    obtain ⟨once, taken, full⟩ := batch
    have due := progress.due
    rw [here] at due
    exact history.delete due (by omega) once taken
  cases effect with
  | list _ => exact history.note rfl rfl (by trivial) (by intro _ _ _ _ same; cases same)
  | stop _ => exact history
  | skip _ => exact plain (by simp)
  | fail _ => exact plain (by simp)
  | begin _ _ _ => exact history
  | batch here batch => exact less here batch
  | last here batch few =>
    apply (less here batch).note rfl rfl (by trivial)
    intro _ _ _ _ same
    cases same
    exact none_left batch few
  | lost here batch =>
    apply (less here batch).note rfl rfl (by trivial)
    intro _ _ _ _ same
    cases same
  | arrive fresh => exact history.arrive fresh

theorem history_of_run {now : Int} {rows : List RequestRow} {active : List Str}
    {limits : Str → Option PlanLimits} {ls : List PruneLabel} {s : PruneState}
    (ids : (rows.map RequestRow.id).Nodup)
    (ran : pruneMachine.run { now, rows, active, limits } ls = some s) :
    TableHistory rows s.rows s.log ∧ Progress s := by
  have keeps : ∀ s l s', TableHistory rows s.rows s.log ∧ Progress s → pruneMachine.step s l = some s' →
      TableHistory rows s'.rows s'.log ∧ Progress s' := by
    intro s l s' ⟨history, progress⟩ stepped
    rcases PruneState.step_cases stepped with effect | ⟨_, _, _, -, rfl⟩
    · exact ⟨history.effect progress effect, progress.effect effect⟩
    · exact ⟨history, progress.due, progress.unlisted, progress.failed, progress.counted, progress.all,
        progress.listed⟩
  refine pruneMachine.run_invariant keeps ⟨⟨ids, List.Perm.refl _, by simp, ?_⟩, ?_⟩ ran
  · intro later _ _ _ _ _ split
    cases later <;> cases split
  · exact ⟨trivial, fun _ => ⟨rfl, by simp⟩, rfl, Nat.zero_le _, fun _ => rfl, by simp⟩

def Forever (workspaceId : Str) (limits : Str → Option PlanLimits) : Prop :=
  ∀ days, (limits workspaceId).bind PlanLimits.retentionDays = some days → days = 0

def KeepsForever (workspaceId : Str) : PruneLabel → Prop
  | .meanwhile _ _ limits => Forever workspaceId limits
  | _ => True

def Elsewhere (workspaceId : Str) : PrunePhase → Prop
  | .deleting other _ _ _ => other ≠ workspaceId
  | _ => True

/-- A workspace that nothing is deleted of. -/
structure Kept (workspaceId : Str) (s : PruneState) : Prop where
  forever : Forever workspaceId s.limits
  elsewhere : Elsewhere workspaceId s.phase
  others : ∀ row ∈ deletedRows s.log, row.workspaceId ≠ workspaceId

theorem Kept.effect {workspaceId : Str} {s s' : PruneState} (kept : Kept workspaceId s)
    (effect : s.Effect s') : Kept workspaceId s' := by
  have forever : Forever workspaceId s'.limits := by
    rw [effect.limits]
    exact kept.forever
  have more {other : Str} {days : Int} {deleted : Nat} {workspaces : List Str} {picked : List RequestRow}
      (here : s.phase = .deleting other days deleted workspaces) (batch : s.Batch other days picked) :
      ∀ row ∈ picked ++ deletedRows s.log, row.workspaceId ≠ workspaceId := by
    intro row member
    cases List.mem_append.mp member with
    | inl taken =>
      have expired := (batch.2.1 row taken).2
      simp only [RequestRow.expired, Bool.and_eq_true, decide_eq_true_eq] at expired
      have elsewhere := kept.elsewhere
      rw [here] at elsewhere
      rw [expired.1]
      exact elsewhere
    | inr before => exact kept.others row before
  cases effect with
  | list _ => exact ⟨forever, trivial, kept.others⟩
  | stop _ => exact ⟨forever, trivial, kept.others⟩
  | skip _ => exact ⟨forever, trivial, kept.others⟩
  | fail _ => exact ⟨forever, trivial, kept.others⟩
  | begin first limited some_ =>
    refine ⟨forever, ?_, kept.others⟩
    rintro rfl
    exact some_ (kept.forever _ limited)
  | batch here batch =>
    have elsewhere := kept.elsewhere
    rw [here] at elsewhere
    exact ⟨forever, elsewhere, more here batch⟩
  | last here batch _ => exact ⟨forever, trivial, more here batch⟩
  | lost here batch => exact ⟨forever, trivial, more here batch⟩
  | arrive _ => exact ⟨forever, kept.elsewhere, kept.others⟩

/-- While the plan of a workspace keeps its requests forever, every row of it stays, of those at the
start and of those that arrive. -/
theorem retained_forever {workspaceId : Str} {now : Int} {rows : List RequestRow} {active : List Str}
    {limits : Str → Option PlanLimits} {ls : List PruneLabel} {s : PruneState}
    (ids : (rows.map RequestRow.id).Nodup) (forever : Forever workspaceId limits)
    (always : ∀ l ∈ ls, KeepsForever workspaceId l)
    (ran : pruneMachine.run { now, rows, active, limits } ls = some s) :
    ∀ row ∈ rows ++ arrivedRows s.log, row.workspaceId = workspaceId → row ∈ s.rows := by
  have kept : Kept workspaceId s := by
    have steps : pruneMachine.Preserves (fun _ l => KeepsForever workspaceId l) (Kept workspaceId) := by
      intro s l s' kept keeps stepped
      rcases PruneState.step_cases stepped with effect | ⟨now, active, limits, rfl, rfl⟩
      · exact kept.effect effect
      · exact ⟨keeps, kept.elsewhere, kept.others⟩
    refine steps.run pruneMachine ⟨forever, by trivial, by simp [deletedRows]⟩ ?_ ran
    exact pruneMachine.guarded_of_forall always _
  intro row member its
  have conserved := (history_of_run ids ran).1.conserved
  cases List.mem_append.mp (conserved.mem_iff.mpr member) with
  | inl present => exact present
  | inr deleted => exact absurd its (kept.others row deleted)

def monthOrForever (workspaceId : Str) : Option PlanLimits :=
  if workspaceId = ['a'] then some { retentionDays := some 30 } else some { retentionDays := some 0 }

def oldRows : List RequestRow := [⟨1, ['a'], 0⟩, ⟨2, ['b'], 0⟩]

def beforeRun : PruneState :=
  { now := 31 * dayLength, rows := oldRows, active := [['a'], ['b']], limits := monthOrForever }

def wholeRun : List PruneLabel :=
  [.advance [], .advance [], .advance [⟨1, ['a'], 0⟩], .arrive ⟨3, ['b'], 0⟩, .advance [], .advance []]

theorem wholeRun_runs : ∃ s, pruneMachine.run beforeRun wholeRun = some s :=
  Option.isSome_iff_exists.mp rfl

theorem wholeRun_retains : ∃ s, pruneMachine.run beforeRun wholeRun = some s ∧ ⟨2, ['b'], 0⟩ ∈ s.rows := by
  obtain ⟨s, ran⟩ := wholeRun_runs
  have forever : Forever ['b'] monthOrForever := by
    intro days limited
    cases limited
    rfl
  have always : ∀ l ∈ wholeRun, KeepsForever ['b'] l := by simp [wholeRun, KeepsForever]
  have kept := retained_forever (by decide) forever always ran
  exact ⟨s, ran, kept ⟨2, ['b'], 0⟩ (by simp [oldRows]) rfl⟩

end BurnLens.Backend
