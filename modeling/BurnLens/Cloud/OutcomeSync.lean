import BurnLens.Cloud.Outcomes
import BurnLens.Library.Fleet

/-! # Outcome sync

Any number of sync cycles beside the three writers of the local table.  A cycle takes what it
pushes off the table in one statement, the backend inserts it row by row, and the cycle marks
the rows by their ids.  The backend keeps what it has of an outcome, and the type of an outcome
is not on the wire.
-/

namespace BurnLens.Cloud

open Library

/-! ## The system -/

structure OutcomeWorld where
  rows : List OutcomeRow := []
  cloud : List CloudOutcome := []

/-- What becomes of a push. -/
inductive PushFate where
  | served
  -- it does not reach the backend, or is refused there
  | refused
  -- the backend inserts so many rows, and the client reads no answer of 200
  | lost (inserted : Nat)
deriving DecidableEq

inductive OutcomeCycle where
  | fetching
  -- the ids fetched, and what the backend is still to insert
  | pushing (ids : List Nat) (pending : List OutcomeRecord)
  | marking (ids : List Nat)
  | ended

inductive OutcomeWrite where
  | insert (outcome : Outcome)
  | reconcile (outcome : Outcome)
  | correct (outcomeId : Str) (status : OutcomeStatus) (eventTime : Option Str)

def OutcomeWorld.write (w : OutcomeWorld) : OutcomeWrite → OutcomeWorld
  | .insert outcome => { w with rows := (insertOutcome w.rows outcome).1 }
  | .reconcile outcome => { w with rows := (reconcileDerivedOutcome w.rows outcome).1 }
  | .correct outcomeId status eventTime =>
    { w with rows := (correctOutcome w.rows outcomeId status eventTime).1 }

section

variable (parseTime : Json → Option Int)

/-- What follows the fetch: a batch with an invalid outcome is refused as a whole. -/
def pushed (rows : List OutcomeRow) : PushFate → OutcomeCycle
  | .refused => .ended
  | fate =>
    match rows.mapM fun row => parseOutcome parseTime row.payload with
    | none => .ended
    | some records =>
      .pushing (rows.map OutcomeRow.id) <|
        match fate with
        | .lost inserted => (collapse records).take inserted
        | _ => collapse records

def OutcomeWorld.cycle (w : OutcomeWorld) (fate : PushFate) :
    OutcomeCycle → Option (OutcomeWorld × OutcomeCycle)
  | .fetching =>
    let rows := (w.rows.filter fun row => !row.synced).take batchSize
    some (w, if rows.isEmpty then .ended else pushed parseTime rows fate)
  | .pushing ids (o :: pending) =>
    match insertCloud w.cloud o with
    | none => some (w, .ended)
    | some cloud => some ({ w with cloud }, .pushing ids pending)
  | .pushing ids [] => some (w, if fate = .served then .marking ids else .ended)
  | .marking ids => some ({ w with rows := markOutcomesSynced w.rows ids }, .ended)
  | .ended => none

def outcomeRoutes : Routes OutcomeWorld PushFate OutcomeCycle OutcomeWrite where
  advance := OutcomeWorld.cycle parseTime
  happen := OutcomeWorld.write

abbrev OutcomeState := Fleet OutcomeWorld PushFate OutcomeCycle

abbrev OutcomeLabel := FleetLabel OutcomeWrite

def outcomeMachine : Machine OutcomeState OutcomeLabel := (outcomeRoutes parseTime).machine

end

/-! ## Faithful rows -/

structure Faithful (parseTime : Json → Option Int) (row : OutcomeRow) (c : CloudOutcome) :
    Prop where
  outcomeId : c.outcomeId = row.outcomeId
  workflowId : c.workflowId = row.workflowId
  status : c.status = row.status
  eventTime : parseTime (.str row.eventTime) = some c.eventTime
  businessValue : c.businessValue = row.businessValue
  currency : c.currency = row.currency
  outcomeType : c.metadata.getD "outcome_type" .null = row.outcomeType

def OutcomeWorld.holds (w : OutcomeWorld) (outcomeId : Str) : Bool :=
  w.cloud.any fun c => c.outcomeId = outcomeId

/-- The write changes this row of the table. -/
def OutcomeWrite.changes : OutcomeWrite → OutcomeRow → Bool
  | .insert _, _ => false
  | .reconcile outcome, row =>
    row.outcomeId = outcome.outcomeId ∧ row.source = "derived" ∧
      (row.status ≠ outcome.status ∨ row.eventTime ≠ outcome.eventTime)
  | .correct outcomeId status eventTime, row =>
    row.outcomeId = outcomeId ∧
      (row.status ≠ status ∨ correctedTime row.eventTime eventTime ≠ row.eventTime)

def OutcomeCycle.pending : OutcomeCycle → List OutcomeRecord
  | .pushing _ pending => pending
  | _ => []

/-- The backend loses nothing of the row: its type is the default, and its value has at most six
    decimals. -/
def OutcomeRow.Plain (row : OutcomeRow) : Prop :=
  row.outcomeType.isText "unspecified" = true ∧ ∀ x ∈ row.businessValue, Decimal 6 x

instance (row : OutcomeRow) : Decidable row.Plain := inferInstanceAs (Decidable (_ ∧ _))

/-- What is new to the backend is plain, and a row changes only while it is neither in the
    backend nor on the way there. -/
def deliveredAsRecorded (s : OutcomeState) : OutcomeLabel → Prop
  | .advance k => ∀ c ∈ s.calls[k]?, ∀ o ∈ c.2.pending.head?, s.world.holds o.outcomeId = false →
      ∀ row ∈ s.world.rows, row.outcomeId = o.outcomeId → row.Plain
  | .happen write => ∀ row ∈ s.world.rows, write.changes row = true →
      s.world.holds row.outcomeId = false ∧
        ∀ c ∈ s.calls, ∀ o ∈ c.2.pending, o.outcomeId ≠ row.outcomeId

instance (s : OutcomeState) : (l : OutcomeLabel) → Decidable (deliveredAsRecorded s l)
  | .advance k => inferInstanceAs (Decidable (∀ c ∈ s.calls[k]?, ∀ o ∈ c.2.pending.head?,
      s.world.holds o.outcomeId = false →
        ∀ row ∈ s.world.rows, row.outcomeId = o.outcomeId → row.Plain))
  | .happen write => inferInstanceAs (Decidable (∀ row ∈ s.world.rows, write.changes row = true →
      s.world.holds row.outcomeId = false ∧
        ∀ c ∈ s.calls, ∀ o ∈ c.2.pending, o.outcomeId ≠ row.outcomeId))

/-! ## What a local write does -/

section

variable {w : OutcomeWorld} {write : OutcomeWrite}

theorem findOutcome_eq_none {rows : List OutcomeRow} {outcomeId : Str}
    (missing : findOutcome rows outcomeId = none) :
    ∀ row ∈ rows, row.outcomeId ≠ outcomeId := by
  intro row member
  simpa using List.find?_eq_none.mp missing row member

theorem findOutcome_eq_some {rows : List OutcomeRow} {outcomeId : Str} {row : OutcomeRow}
    (found : findOutcome rows outcomeId = some row) : row ∈ rows ∧ row.outcomeId = outcomeId :=
  ⟨List.mem_of_find?_eq_some found, by simpa using List.find?_some found⟩

/-- What a write does to a row that is there: it keeps its ids and its mark. -/
structure Edits (write : OutcomeWrite) (rows : List OutcomeRow) (edit : OutcomeRow → OutcomeRow) :
    Prop where
  id : ∀ row ∈ rows, (edit row).id = row.id
  outcomeId : ∀ row ∈ rows, (edit row).outcomeId = row.outcomeId
  synced : ∀ row ∈ rows, (edit row).synced = row.synced
  same : ∀ row ∈ rows, write.changes row = false → edit row = row

theorem Edits.identity (rows : List OutcomeRow) : Edits write rows fun row => row :=
  ⟨fun _ _ => rfl, fun _ _ => rfl, fun _ _ => rfl, fun _ _ _ => rfl⟩

/-- What a local write can do: edit rows, or append one whose outcome is new. -/
theorem write_cases (distinct : (w.rows.map OutcomeRow.outcomeId).Nodup) :
    (w.write write).cloud = w.cloud ∧
      ((∃ edit, (w.write write).rows = w.rows.map edit ∧ Edits write w.rows edit) ∨
        ∃ outcome, (w.write write).rows = appendOutcome w.rows outcome ∧
          ∀ row ∈ w.rows, row.outcomeId ≠ outcome.outcomeId) := by
  have unchanged : ∃ edit, w.rows = w.rows.map edit ∧ Edits write w.rows edit :=
    ⟨fun row => row, (List.map_id' w.rows).symm, .identity w.rows⟩
  have one : ∀ row ∈ w.rows, ∀ row' ∈ w.rows, row.outcomeId = row'.outcomeId → row = row' :=
    fun row member row' member' => List.inj_on_of_nodup_map distinct member member'
  cases write with
  | insert outcome =>
    refine ⟨rfl, ?_⟩
    simp only [OutcomeWorld.write, insertOutcome]
    cases found : findOutcome w.rows outcome.outcomeId with
    | none => exact Or.inr ⟨outcome, rfl, findOutcome_eq_none found⟩
    | some current => exact Or.inl unchanged
  | reconcile outcome =>
    refine ⟨rfl, ?_⟩
    simp only [OutcomeWorld.write, reconcileDerivedOutcome]
    cases found : findOutcome w.rows outcome.outcomeId with
    | none => exact Or.inr ⟨outcome, rfl, findOutcome_eq_none found⟩
    | some current =>
      obtain ⟨member, its⟩ := findOutcome_eq_some found
      left
      simp only
      split
      · exact unchanged
      · rename_i corrects
        refine ⟨_, rfl, fun row _ => ?_, fun row _ => ?_, fun row _ => ?_,
          fun row there kept => ?_⟩
        · split <;> rfl
        · split
          · rename_i same
            exact same.symm
          · rfl
        · split <;> rfl
        · rw [if_neg]
          intro same
          have current := one row there current member (same.trans its.symm)
          subst current
          simp only [OutcomeWrite.changes, decide_eq_false_iff_not, not_and] at kept
          rw [not_or, not_not, not_not] at corrects
          exact kept same corrects.1 corrects.2
  | correct outcomeId status eventTime =>
    refine ⟨rfl, ?_⟩
    simp only [OutcomeWorld.write, correctOutcome]
    cases found : findOutcome w.rows outcomeId with
    | none => exact Or.inl unchanged
    | some current =>
      obtain ⟨member, its⟩ := findOutcome_eq_some found
      left
      refine ⟨_, rfl, fun row _ => ?_, fun row _ => ?_, fun row _ => ?_, fun row there kept => ?_⟩
      · split <;> rfl
      · split <;> rfl
      · split <;> rfl
      · split
        · rename_i same
          have current := one row there current member (same.trans its.symm)
          subst current
          simp only [OutcomeWrite.changes, decide_eq_false_iff_not, not_and, not_or,
            not_not] at kept
          obtain ⟨sameStatus, sameTime⟩ := kept same
          rw [← sameStatus, sameTime]
        · rfl

end

/-! ## The invariant -/

section

variable {parseTime : Json → Option Int} {s : OutcomeState} {w : OutcomeWorld} {k : Nat}
  {fate : PushFate} {phase next : OutcomeCycle} {write : OutcomeWrite}

variable (parseTime) in
def OutcomeCycle.Fits (w : OutcomeWorld) (fate : PushFate) : OutcomeCycle → Prop
  | .pushing ids pending => (∀ id ∈ ids, id ≤ w.rows.length) ∧
      (∀ o ∈ pending, ∃ row ∈ w.rows, o.Reads parseTime row) ∧
      (fate = .served → ∀ row ∈ w.rows, row.id ∈ ids →
        w.holds row.outcomeId = true ∨ ∃ o ∈ pending, o.outcomeId = row.outcomeId)
  | .marking ids => (∀ id ∈ ids, id ≤ w.rows.length) ∧
      ∀ row ∈ w.rows, row.id ∈ ids → w.holds row.outcomeId = true
  | .fetching | .ended => True

variable (parseTime) in
structure OutcomeInvariant (s : OutcomeState) : Prop where
  ids : ∀ row ∈ s.world.rows, row.id ≤ s.world.rows.length
  distinctIds : (s.world.rows.map OutcomeRow.id).Nodup
  distinct : (s.world.rows.map OutcomeRow.outcomeId).Nodup
  faithful : ∀ c ∈ s.world.cloud, ∃ row ∈ s.world.rows, Faithful parseTime row c
  synced : ∀ row ∈ s.world.rows, row.synced = true → s.world.holds row.outcomeId = true
  fits : s.Each (OutcomeCycle.Fits parseTime)

theorem holds_iff {outcomeId : Str} :
    w.holds outcomeId = true ↔ ∃ c ∈ w.cloud, c.outcomeId = outcomeId := by
  simp [OutcomeWorld.holds]

theorem OutcomeInvariant.idle (invariant : OutcomeInvariant parseTime s)
    (fits : next.Fits parseTime s.world fate) :
    OutcomeInvariant parseTime ⟨s.world, s.calls.set k (fate, next)⟩ :=
  ⟨invariant.ids, invariant.distinctIds, invariant.distinct, invariant.faithful, invariant.synced,
    .set fits fun _ _ _ _ there => invariant.fits.at there⟩

theorem mapM_some {α β : Type} {f : α → Option β} {as : List α} {bs : List β}
    (mapped : as.mapM f = some bs) :
    (∀ b ∈ bs, ∃ a ∈ as, f a = some b) ∧ ∀ a ∈ as, ∃ b ∈ bs, f a = some b := by
  induction as generalizing bs with
  | nil =>
    rw [List.mapM_nil] at mapped
    cases mapped
    simp
  | cons a as inductionHypothesis =>
    rw [List.mapM_cons] at mapped
    simp only [Option.bind_eq_bind, Option.bind_eq_some_iff, Option.pure_def,
      Option.some.injEq] at mapped
    obtain ⟨b, own, bs, rest, rfl⟩ := mapped
    obtain ⟨from_, onto⟩ := inductionHypothesis rest
    constructor
    · intro b' member
      obtain rfl | later := List.mem_cons.mp member
      · exact ⟨a, List.mem_cons_self .., own⟩
      · obtain ⟨a', there, its⟩ := from_ b' later
        exact ⟨a', List.mem_cons_of_mem _ there, its⟩
    · intro a' member
      obtain rfl | later := List.mem_cons.mp member
      · exact ⟨b, List.mem_cons_self .., own⟩
      · obtain ⟨b', there, its⟩ := onto a' later
        exact ⟨b', List.mem_cons_of_mem _ there, its⟩

theorem collapse_covers {records : List OutcomeRecord} {o : OutcomeRecord} (member : o ∈ records) :
    ∃ o' ∈ collapse records, o'.outcomeId = o.outcomeId :=
  (firsts_covers member).resolve_left (by simp)

theorem pushed_fits (ids : ∀ row ∈ w.rows, row.id ≤ w.rows.length) {rows : List OutcomeRow}
    (from_ : ∀ row ∈ rows, row ∈ w.rows)
    (unique : ∀ row ∈ w.rows, ∀ row' ∈ rows, row.id = row'.id → row = row') :
    (pushed parseTime rows fate).Fits parseTime w fate := by
  have posted : ∀ records pending, rows.mapM (fun row => parseOutcome parseTime row.payload) =
      some records → (∀ o ∈ pending, o ∈ collapse records) →
      (fate = .served → pending = collapse records) →
      (OutcomeCycle.pushing (rows.map OutcomeRow.id) pending).Fits parseTime w fate := by
    intro records pending parsed among all
    obtain ⟨read, written⟩ := mapM_some parsed
    refine ⟨fun id member => ?_, fun o member => ?_, fun served row member its => ?_⟩
    · obtain ⟨row, there, rfl⟩ := List.mem_map.mp member
      exact ids row (from_ row there)
    · obtain ⟨row, there, its⟩ := read o (mem_of_mem_firsts (among o member))
      exact ⟨row, from_ row there, parseOutcome_payload its⟩
    · obtain ⟨row', there, same⟩ := List.mem_map.mp its
      obtain rfl := unique row member row' there same.symm
      obtain ⟨o, record, parsed⟩ := written row there
      obtain ⟨o', inserted, same⟩ := collapse_covers record
      rw [all served]
      exact Or.inr ⟨o', inserted, same.trans (parseOutcome_payload parsed).outcomeId⟩
  cases fate with
  | refused => trivial
  | served =>
    simp only [pushed]
    split
    · trivial
    · rename_i records parsed
      exact posted records _ parsed (fun _ member => member) fun _ => rfl
  | lost inserted =>
    simp only [pushed]
    split
    · trivial
    · rename_i records parsed
      exact posted records _ parsed (fun _ member => List.mem_of_mem_take member) (by simp)

/-- What is known of a cycle stays known where its batch still says what the rows say. -/
theorem OutcomeCycle.Fits.other {w' : OutcomeWorld} (fits : phase.Fits parseTime w fate)
    (more : w.rows.length ≤ w'.rows.length)
    (kept : ∀ o ∈ phase.pending, ∀ row ∈ w.rows, o.Reads parseTime row →
      ∃ row' ∈ w'.rows, o.Reads parseTime row')
    (old : ∀ row' ∈ w'.rows, row'.id ≤ w.rows.length →
      ∃ row ∈ w.rows, row.id = row'.id ∧ row.outcomeId = row'.outcomeId)
    (holds : ∀ outcomeId, w.holds outcomeId = true → w'.holds outcomeId = true) :
    phase.Fits parseTime w' fate := by
  cases phase with
  | fetching => trivial
  | ended => trivial
  | pushing ids pending =>
    obtain ⟨bounded, read, all⟩ := fits
    refine ⟨fun id member => (bounded id member).trans more, fun o member => ?_,
      fun served row' member its => ?_⟩
    · obtain ⟨row, there, reads⟩ := read o member
      exact kept o member row there reads
    · obtain ⟨row, there, sameId, same⟩ := old row' member (bounded row'.id its)
      rw [← sameId] at its
      rw [← same]
      obtain stored | coming := all served row there its
      · exact Or.inl (holds _ stored)
      · exact Or.inr coming
  | marking ids =>
    obtain ⟨bounded, all⟩ := fits
    refine ⟨fun id member => (bounded id member).trans more, fun row' member its => ?_⟩
    obtain ⟨row, there, sameId, same⟩ := old row' member (bounded row'.id its)
    rw [← sameId] at its
    rw [← same]
    exact holds _ (all row there its)

/-! ## The backend's insert -/

theorem isText_iff {text : Str} {value : Json} : value.isText text = true ↔ value = .str text := by
  cases value <;> simp [Json.isText]

theorem numericColumn_plain {value : Option ℚ} {stored : Option ℚ}
    (plain : ∀ x ∈ value, Decimal 6 x) (stores : numericColumn value = some stored) :
    stored = value := by
  cases value with
  | none => exact (Option.some.inj stores).symm
  | some x =>
    rw [numericColumn, (plain x rfl).numeric_eq] at stores
    split at stores
    · exact (Option.some.inj stores).symm
    · cases stores

theorem getD_set_self (fields : Fields) (key : Str) (value default : Json) :
    (fields.set key value).getD key default = value := by
  cases there : fields.has key with
  | true => rw [Fields.getD, Fields.get?_set_self there, Option.getD_some]
  | false => rw [Fields.getD, Fields.get?_set_of_absent there, Option.getD_some]

theorem OutcomeRecord.Reads.faithful {o : OutcomeRecord} {row : OutcomeRow} {value : Option ℚ}
    (reads : o.Reads parseTime row) (plain : row.Plain)
    (stores : numericColumn o.businessValue = some value) :
    Faithful parseTime row (o.entry value) := by
  refine ⟨reads.outcomeId, reads.workflowId, reads.status, reads.eventTime, ?_, reads.currency, ?_⟩
  · rw [reads.businessValue] at stores
    exact numericColumn_plain plain.2 stores
  · rw [isText_iff.mp plain.1]
    show (o.metadata.set "outcome_type" (.str o.outcomeType)).getD "outcome_type" .null = _
    rw [getD_set_self, reads.outcomeType]

theorem insertCloud_cases {o : OutcomeRecord} {cloud : List CloudOutcome}
    (inserted : insertCloud w.cloud o = some cloud) :
    (w.holds o.outcomeId = true ∧ cloud = w.cloud) ∨
      ∃ value, numericColumn o.businessValue = some value ∧ w.holds o.outcomeId = false ∧
        cloud = w.cloud ++ [o.entry value] := by
  unfold insertCloud at inserted
  split at inserted
  · cases inserted
  · rename_i value stores
    split at inserted
    · rename_i there
      cases inserted
      exact Or.inl ⟨there, rfl⟩
    · rename_i missing
      cases inserted
      exact Or.inr ⟨value, stores, by simpa [OutcomeWorld.holds] using missing, rfl⟩

theorem holds_append {c : CloudOutcome} {outcomeId : Str} :
    ({ w with cloud := w.cloud ++ [c] } : OutcomeWorld).holds outcomeId =
      (w.holds outcomeId || c.outcomeId = outcomeId) := by
  simp [OutcomeWorld.holds]

theorem OutcomeInvariant.insert (invariant : OutcomeInvariant parseTime s) {ids : List Nat}
    {o : OutcomeRecord} {pending : List OutcomeRecord} {cloud : List CloudOutcome}
    (found : s.calls[k]? = some (fate, .pushing ids (o :: pending)))
    (inserted : insertCloud s.world.cloud o = some cloud)
    (plain : s.world.holds o.outcomeId = false →
      ∀ row ∈ s.world.rows, row.outcomeId = o.outcomeId → row.Plain) :
    OutcomeInvariant parseTime
      ⟨{ s.world with cloud }, s.calls.set k (fate, .pushing ids pending)⟩ := by
  obtain ⟨bounded, read, all⟩ := invariant.fits.at found
  have later : ∀ o' ∈ pending, ∃ row ∈ s.world.rows, o'.Reads parseTime row :=
    fun o' member => read o' (List.mem_cons_of_mem _ member)
  obtain ⟨there, rfl⟩ | ⟨value, stores, missing, rfl⟩ := insertCloud_cases inserted
  · refine invariant.idle ⟨bounded, later, fun served row member its => ?_⟩
    obtain stored | ⟨o', coming, same⟩ := all served row member its
    · exact Or.inl stored
    · obtain rfl | coming := List.mem_cons.mp coming
      · exact Or.inl (same ▸ there)
      · exact Or.inr ⟨o', coming, same⟩
  · have more : ∀ outcomeId, s.world.holds outcomeId = true →
        ({ s.world with cloud := s.world.cloud ++ [o.entry value] } : OutcomeWorld).holds
          outcomeId = true := by
      intro outcomeId stored
      rw [holds_append, stored, Bool.true_or]
    have own : ({ s.world with cloud := s.world.cloud ++ [o.entry value] } : OutcomeWorld).holds
        o.outcomeId = true := by
      rw [holds_append]
      simp [OutcomeRecord.entry]
    constructor
    · exact invariant.ids
    · exact invariant.distinctIds
    · exact invariant.distinct
    · intro c member
      obtain before | new := List.mem_append.mp member
      · exact invariant.faithful c before
      · obtain rfl := List.mem_singleton.mp new
        obtain ⟨row, there, reads⟩ := read o (List.mem_cons_self ..)
        exact ⟨row, there, reads.faithful (plain missing row there reads.outcomeId.symm) stores⟩
    · exact fun row member marked => more _ (invariant.synced row member marked)
    · refine .set ⟨bounded, later, fun served row member its => ?_⟩ fun j other phase' _ there => ?_
      · obtain stored | ⟨o', coming, same⟩ := all served row member its
        · exact Or.inl (more _ stored)
        · obtain rfl | coming := List.mem_cons.mp coming
          · exact Or.inl (same ▸ own)
          · exact Or.inr ⟨o', coming, same⟩
      · exact (invariant.fits.at there).other (Nat.le_refl _) (fun _ _ row there reads =>
          ⟨row, there, reads⟩) (fun row there _ => ⟨row, there, rfl, rfl⟩) more

theorem map_key {κ : Type} {rows : List OutcomeRow} {edit : OutcomeRow → OutcomeRow}
    {key : OutcomeRow → κ} (keeps : ∀ row ∈ rows, key (edit row) = key row) :
    (rows.map edit).map key = rows.map key := by
  rw [List.map_map]
  exact List.map_congr_left keeps

theorem nodup_concat {κ : Type} {rows : List OutcomeRow} {row : OutcomeRow}
    {key : OutcomeRow → κ} (distinct : (rows.map key).Nodup)
    (new : ∀ old ∈ rows, key old ≠ key row) : ((rows ++ [row]).map key).Nodup := by
  rw [List.map_append]
  refine List.nodup_append.mpr ⟨distinct, List.nodup_singleton _, fun k before k' after => ?_⟩
  obtain ⟨old, there, rfl⟩ := List.mem_map.mp before
  rw [List.mem_singleton.mp after]
  exact new old there

theorem OutcomeInvariant.mark (invariant : OutcomeInvariant parseTime s) {ids : List Nat}
    (found : s.calls[k]? = some (fate, .marking ids)) :
    OutcomeInvariant parseTime ⟨{ s.world with rows := markOutcomesSynced s.world.rows ids },
      s.calls.set k (fate, .ended)⟩ := by
  obtain ⟨bounded, all⟩ := invariant.fits.at found
  have old : ∀ row' ∈ markOutcomesSynced s.world.rows ids, ∃ row ∈ s.world.rows,
      row.id = row'.id ∧ row.outcomeId = row'.outcomeId ∧
        (row'.synced = true → row.synced = true ∨ row.id ∈ ids) := by
    intro row' member
    obtain ⟨row, there, rfl⟩ := List.mem_map.mp member
    split
    · rename_i marked
      exact ⟨row, there, rfl, rfl, fun _ => Or.inr marked⟩
    · exact ⟨row, there, rfl, rfl, Or.inl⟩
  have kept : ∀ row ∈ s.world.rows, ∃ row' ∈ markOutcomesSynced s.world.rows ids,
      row' = row ∨ row' = { row with synced := true } := by
    intro row member
    refine ⟨_, List.mem_map_of_mem member, ?_⟩
    split
    · exact Or.inr rfl
    · exact Or.inl rfl
  have length : (markOutcomesSynced s.world.rows ids).length = s.world.rows.length :=
    List.length_map _
  constructor
  · intro row' member
    obtain ⟨row, there, same, _⟩ := old row' member
    rw [← same, length]
    exact invariant.ids row there
  · have same : (markOutcomesSynced s.world.rows ids).map OutcomeRow.id = _ :=
      map_key fun row _ => by split <;> rfl
    rw [same]
    exact invariant.distinctIds
  · have same : (markOutcomesSynced s.world.rows ids).map OutcomeRow.outcomeId = _ :=
      map_key fun row _ => by split <;> rfl
    rw [same]
    exact invariant.distinct
  · intro c member
    obtain ⟨row, there, faithful⟩ := invariant.faithful c member
    obtain ⟨row', there', rfl | rfl⟩ := kept row there
    · exact ⟨row', there', faithful⟩
    · exact ⟨_, there', ⟨faithful.1, faithful.2, faithful.3, faithful.4, faithful.5, faithful.6,
        faithful.7⟩⟩
  · intro row' member marked
    obtain ⟨row, there, _, same, from_⟩ := old row' member
    rw [← same]
    obtain before | now := from_ marked
    · exact invariant.synced row there before
    · exact all row there now
  · refine .set trivial fun j other phase' _ there => ?_
    refine (invariant.fits.at there).other length.ge (fun o _ row there reads => ?_)
      (fun row' member _ => ?_) fun _ => id
    · obtain ⟨row', there', rfl | rfl⟩ := kept row there
      · exact ⟨row', there', reads⟩
      · exact ⟨_, there', ⟨reads.1, reads.2, reads.3, reads.4, reads.5, reads.6, reads.7,
          reads.8⟩⟩
    · obtain ⟨row, there, sameId, same, _⟩ := old row' member
      exact ⟨row, there, sameId, same⟩

theorem write_holds (sameCloud : (s.world.write write).cloud = s.world.cloud) (outcomeId : Str) :
    (s.world.write write).holds outcomeId = s.world.holds outcomeId := by
  rw [OutcomeWorld.holds, sameCloud, ← OutcomeWorld.holds]

/-- A write that edits rows which are neither in the backend nor on the way there. -/
theorem OutcomeInvariant.edit (invariant : OutcomeInvariant parseTime s)
    (early : ∀ row ∈ s.world.rows, write.changes row = true →
      s.world.holds row.outcomeId = false ∧
        ∀ c ∈ s.calls, ∀ o ∈ c.2.pending, o.outcomeId ≠ row.outcomeId)
    (sameCloud : (s.world.write write).cloud = s.world.cloud) {edit : OutcomeRow → OutcomeRow}
    (rows : (s.world.write write).rows = s.world.rows.map edit)
    (edits : Edits write s.world.rows edit) :
    OutcomeInvariant parseTime { s with world := s.world.write write } := by
  have length : (s.world.write write).rows.length = s.world.rows.length := by
    rw [rows, List.length_map]
  have old : ∀ row' ∈ (s.world.write write).rows, ∃ row ∈ s.world.rows,
      row.id = row'.id ∧ row.outcomeId = row'.outcomeId ∧ row'.synced = row.synced := by
    intro row' member
    rw [rows] at member
    obtain ⟨row, there, rfl⟩ := List.mem_map.mp member
    exact ⟨row, there, (edits.id row there).symm, (edits.outcomeId row there).symm,
      edits.synced row there⟩
  have kept : ∀ row ∈ s.world.rows, write.changes row = false →
      row ∈ (s.world.write write).rows := by
    intro row member unchanged
    rw [rows]
    exact List.mem_map.mpr ⟨row, member, edits.same row member unchanged⟩
  constructor
  · intro row' member
    obtain ⟨row, there, same, _⟩ := old row' member
    rw [← same]
    exact (invariant.ids row there).trans length.ge
  · show ((s.world.write write).rows.map OutcomeRow.id).Nodup
    rw [rows, map_key edits.id]
    exact invariant.distinctIds
  · show ((s.world.write write).rows.map OutcomeRow.outcomeId).Nodup
    rw [rows, map_key edits.outcomeId]
    exact invariant.distinct
  · intro c member
    rw [show (s.world.write write).cloud = _ from sameCloud] at member
    obtain ⟨row, there, faithful⟩ := invariant.faithful c member
    refine ⟨row, kept row there ?_, faithful⟩
    by_contra changes
    have absent := (early row there (by simpa using changes)).1
    rw [holds_iff.mpr ⟨c, member, faithful.outcomeId⟩] at absent
    cases absent
  · intro row' member marked
    obtain ⟨row, there, _, same, sync⟩ := old row' member
    rw [← same]
    exact (write_holds sameCloud _).trans (invariant.synced row there (sync.symm.trans marked))
  · intro other phase member
    refine (invariant.fits other phase member).other length.ge (fun o coming row there reads => ?_)
      (fun row' member _ => ?_) fun outcomeId stored => (write_holds sameCloud _).trans stored
    · refine ⟨row, kept row there ?_, reads⟩
      by_contra changes
      exact (early row there (by simpa using changes)).2 _ member o coming reads.outcomeId
    · obtain ⟨row, there, sameId, same, _⟩ := old row' member
      exact ⟨row, there, sameId, same⟩

theorem OutcomeInvariant.append (invariant : OutcomeInvariant parseTime s)
    (sameCloud : (s.world.write write).cloud = s.world.cloud) {outcome : Outcome}
    (rows : (s.world.write write).rows = appendOutcome s.world.rows outcome)
    (new : ∀ row ∈ s.world.rows, row.outcomeId ≠ outcome.outcomeId) :
    OutcomeInvariant parseTime { s with world := s.world.write write } := by
  have length : (s.world.write write).rows.length = s.world.rows.length + 1 := by
    rw [rows, appendOutcome, List.length_append, List.length_singleton]
  have cases_ : ∀ row' ∈ (s.world.write write).rows, row' ∈ s.world.rows ∨
      row' = outcome.row (s.world.rows.length + 1) := by
    intro row' member
    rw [rows, appendOutcome] at member
    simpa using member
  have kept : ∀ row ∈ s.world.rows, row ∈ (s.world.write write).rows := by
    intro row member
    rw [rows]
    exact List.mem_append_left _ member
  constructor
  · intro row' member
    obtain before | rfl := cases_ row' member
    · exact (invariant.ids row' before).trans (length ▸ Nat.le_succ _)
    · exact length.ge
  · show ((s.world.write write).rows.map OutcomeRow.id).Nodup
    rw [rows]
    refine nodup_concat invariant.distinctIds fun old there => ?_
    have below := invariant.ids old there
    show old.id ≠ s.world.rows.length + 1
    omega
  · show ((s.world.write write).rows.map OutcomeRow.outcomeId).Nodup
    rw [rows]
    exact nodup_concat invariant.distinct new
  · intro c member
    rw [show (s.world.write write).cloud = _ from sameCloud] at member
    obtain ⟨row, there, faithful⟩ := invariant.faithful c member
    exact ⟨row, kept row there, faithful⟩
  · intro row' member marked
    refine (write_holds sameCloud _).trans ?_
    obtain before | rfl := cases_ row' member
    · exact invariant.synced row' before marked
    · cases marked
  · intro other phase member
    refine (invariant.fits other phase member).other (length ▸ Nat.le_succ _)
      (fun o _ row there reads => ⟨row, kept row there, reads⟩) (fun row' member id => ?_)
      fun outcomeId stored => (write_holds sameCloud _).trans stored
    obtain before | rfl := cases_ row' member
    · exact ⟨row', before, rfl, rfl⟩
    · exact absurd id (Nat.not_succ_le_self _)

/-! ## Runs -/

theorem OutcomeInvariant.advance (invariant : OutcomeInvariant parseTime s)
    (found : s.calls[k]? = some (fate, phase))
    (plain : ∀ o ∈ phase.pending.head?, s.world.holds o.outcomeId = false →
      ∀ row ∈ s.world.rows, row.outcomeId = o.outcomeId → row.Plain)
    (went : s.world.cycle parseTime fate phase = some (w, next)) :
    OutcomeInvariant parseTime ⟨w, s.calls.set k (fate, next)⟩ := by
  cases phase with
  | ended => cases went
  | fetching =>
    cases went
    apply invariant.idle
    split
    · trivial
    · have fetched : ∀ row ∈ (s.world.rows.filter fun row => !row.synced).take batchSize,
          row ∈ s.world.rows := fun row member =>
        (List.mem_filter.mp (List.mem_of_mem_take member)).1
      exact pushed_fits invariant.ids fetched fun row member row' member' =>
        List.inj_on_of_nodup_map invariant.distinctIds member (fetched row' member')
  | marking ids =>
    cases went
    exact invariant.mark found
  | pushing ids pending =>
    cases pending with
    | nil =>
      cases went
      apply invariant.idle
      split
      · rename_i served
        obtain ⟨bounded, _, all⟩ := invariant.fits.at found
        refine ⟨bounded, fun row member its => (all served row member its).resolve_right ?_⟩
        rintro ⟨o, none, _⟩
        cases none
      · trivial
    | cons o pending =>
      simp only [OutcomeWorld.cycle] at went
      split at went
      · cases went
        exact invariant.idle trivial
      · rename_i cloud inserted
        cases went
        exact invariant.insert found inserted (plain o rfl)

theorem outcomeInvariant_preserved : (outcomeMachine parseTime).Preserves
    deliveredAsRecorded (OutcomeInvariant parseTime) := by
  intro s l s' invariant meets stepped
  cases l with
  | advance k =>
    obtain ⟨fate, phase, w, next, found, went, rfl⟩ := advance_cases stepped
    exact invariant.advance found (meets (fate, phase) found) went
  | happen write =>
    rw [happen_cases stepped]
    obtain ⟨sameCloud, ⟨edit, rows, edits⟩ | ⟨outcome, rows, new⟩⟩ :=
      @write_cases s.world write invariant.distinct
    · exact invariant.edit meets sameCloud rows edits
    · exact invariant.append sameCloud rows new

/-- Empty tables, and cycles that are about to fetch. -/
structure OutcomeState.Fresh (s : OutcomeState) : Prop where
  rows : s.world.rows = []
  cloud : s.world.cloud = []
  cycles : ∀ fate phase, (fate, phase) ∈ s.calls → phase = .fetching

theorem OutcomeInvariant.fresh (fresh : s.Fresh) : OutcomeInvariant parseTime s := by
  constructor
  · simp [fresh.rows]
  · simp [fresh.rows]
  · simp [fresh.rows]
  · simp [fresh.cloud]
  · simp [fresh.rows]
  · intro fate phase member
    cases fresh.cycles fate phase member
    trivial

variable (parseTime) in
/-- What the backend has of every outcome is what the local table says. -/
def OutcomesAgree (w : OutcomeWorld) : Prop :=
  ∀ row ∈ w.rows, w.holds row.outcomeId = true ∧
    ∀ c ∈ w.cloud, c.outcomeId = row.outcomeId → Faithful parseTime row c

theorem OutcomeInvariant.agree (invariant : OutcomeInvariant parseTime s)
    (settled : ∀ row ∈ s.world.rows, row.synced = true) : OutcomesAgree parseTime s.world := by
  intro row member
  refine ⟨invariant.synced row member (settled row member), fun c stored its => ?_⟩
  obtain ⟨row', there, faithful⟩ := invariant.faithful c stored
  have same : row = row' := List.inj_on_of_nodup_map invariant.distinct member there
    (its.symm.trans faithful.outcomeId)
  rwa [same]

/-- Outcome sync is faithful where the backend gets a row as it stays: in every run of the
    writers and any number of cycles, if what is new to the backend is of the default type with
    at most six decimals, and a row changes only before it is on its way, then the backend
    agrees with the table once every outcome is marked. -/
theorem outcome_sync_faithful (parseTime : Json → Option Int) (s s' : OutcomeState)
    (labels : List OutcomeLabel) (fresh : s.Fresh)
    (delivered : (outcomeMachine parseTime).Guarded deliveredAsRecorded s labels)
    (ran : (outcomeMachine parseTime).run s labels = some s')
    (settled : ∀ row ∈ s'.world.rows, row.synced = true) : OutcomesAgree parseTime s'.world :=
  (outcomeInvariant_preserved.run _ (.fresh fresh) delivered ran).agree settled

/-! ## A pull request that is reopened -/

def newYear : Json → Option Int
  | .str text => if text = "2026-01-01T00:00:00+00:00" then some 1767225600 else none
  | _ => none

/-- A pull request as it is derived: closed, and then merged. -/
def pullRequest (outcomeType : Str) (status : OutcomeStatus) : Outcome where
  outcomeId := "github:acme/proj#1"
  workflowId := "repo:proj"
  status := status
  outcomeType := outcomeType
  eventTime := "2026-01-01T00:00:00+00:00"
  businessValue := some (5 / 2)
  source := "derived"

def twoCycles : OutcomeState where
  world := {}
  calls := [(.lost 1, .fetching), (.served, .fetching)]

theorem twoCycles_fresh : twoCycles.Fresh := by
  constructor
  · rfl
  · rfl
  · intro fate phase member
    simp only [twoCycles, List.mem_cons, Prod.mk.injEq, List.not_mem_nil, or_false] at member
    obtain ⟨_, rfl⟩ | ⟨_, rfl⟩ := member <;> rfl

def cyclesAtEnd : List OutcomeLabel :=
  List.replicate 3 (FleetLabel.advance 0) ++ List.replicate 4 (FleetLabel.advance 1)

/-- The pull request is merged before it is pushed. -/
def mergedBefore : List OutcomeLabel :=
  [.happen (.insert (pullRequest "unspecified" .rejected)),
    .happen (.reconcile (pullRequest "unspecified" .accepted))] ++ cyclesAtEnd

/-- It is merged when it has been pushed, and has a type of its own. -/
def mergedAfter : List OutcomeLabel :=
  .happen (.reconcile (pullRequest "pull_request" .rejected)) :: cyclesAtEnd ++
    [.happen (.reconcile (pullRequest "pull_request" .accepted))]

theorem outcome_sync_faithful_before : OutcomesAgree newYear
    (((outcomeMachine newYear).run twoCycles mergedBefore).get (by decide +kernel)).world :=
  outcome_sync_faithful newYear twoCycles _ mergedBefore twoCycles_fresh (by decide +kernel)
    (Option.some_get _).symm (by decide +kernel)

/-- A row that changes after it was pushed never reaches the backend again, and its type
    never does. -/
theorem reopened_pull_request_differs :
    ¬ ∀ (parseTime : Json → Option Int) (s s' : OutcomeState) (labels : List OutcomeLabel),
      s.Fresh → (outcomeMachine parseTime).run s labels = some s' →
      (∀ row ∈ s'.world.rows, row.synced = true) → OutcomesAgree parseTime s'.world := by
  intro claim
  have outcome : ((outcomeMachine newYear).run twoCycles mergedAfter).any fun s' =>
      (s'.world.rows.all fun row => row.synced) &&
        s'.world.rows.any fun row => s'.world.cloud.any fun c =>
          c.outcomeId = row.outcomeId ∧ c.status = .rejected ∧ row.status = .accepted ∧
            (c.metadata.getD "outcome_type" .null).isText "unspecified" ∧
            row.outcomeType.isText "pull_request" := by
    decide +kernel
  obtain ⟨s', ran, facts⟩ := (Option.any_eq_true _ _).mp outcome
  simp only [Bool.and_eq_true, List.all_eq_true, List.any_eq_true, decide_eq_true_eq] at facts
  obtain ⟨settled, row, there, c, stored, its, rejected, accepted, _⟩ := facts
  have faithful := (claim newYear twoCycles s' mergedAfter twoCycles_fresh ran settled row there).2 c
    stored its
  have same := faithful.status
  rw [rejected, accepted] at same
  cases same

end

end BurnLens.Cloud
