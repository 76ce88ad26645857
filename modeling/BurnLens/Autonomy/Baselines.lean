import BurnLens.Autonomy.ControlPlane

/-! # Baselines

What becomes of a recorded baseline, in every interleaving of the calls that record, read and
certify against it.
-/

namespace BurnLens.Autonomy

open Library hiding lower
open Trust Verification Program

variable {Caller : Type} {lower : Str → Str} {h : Hashing}

/-- `get_baseline_snapshot` returns `snapshot`. -/
def Stored (h : Hashing) (w : World) (recommendationId workspaceId : Str)
    (snapshot : BaselineSnapshot) : Prop :=
  h.getBaselineSnapshot w.verification recommendationId workspaceId = .ok (some snapshot)

def Request.observation : Request → Option Observation
  | executeOptimizationCycle c => some c.observation
  | verifySavings o => some o
  | _ => none

/-- A verdict about to be saved was computed against the stored baseline. -/
def Certified (h : Hashing) (request : Request) (w : World) (p : Call Reply) : Prop :=
  ∀ record, p.pending = some (.verification (.saveVerificationRecord record)) →
    ∃ o snapshot, request.observation = some o ∧
      Stored h w o.recommendationId o.workspaceId snapshot ∧ o.certify h snapshot = .ok record

/-- The call is about to save a snapshot that can be stored. -/
def Saves (p : Call Reply) (snapshot : BaselineSnapshot) : Prop :=
  p.pending = some (.verification (.saveBaselineSnapshot snapshot)) ∧
    storable snapshot.baselineRequests ∧ storable snapshot.baselineAcceptedOutcomes

structure Kept (h : Hashing) (requests : Caller → Request) (s : Calls Caller)
    (move : Move Caller Raised) (s' : Calls Caller) : Prop where
  recorded : ∀ i snapshot, move = .advance i → Saves (s.program i) snapshot →
    Stored h s'.world snapshot.recommendationId snapshot.workspaceId snapshot.asRead
  stored : ∀ recommendationId workspaceId snapshot,
    Stored h s.world recommendationId workspaceId snapshot →
      Stored h s'.world recommendationId workspaceId snapshot
  certified : ∀ i, Certified h (requests i) s'.world (s'.program i)

/-- A snapshot is saved with a fingerprint that what is read back has, and only where no stored
    one, but for the same, has its id, or its workspace and recommendation. -/
def ReplacesNothing (h : Hashing) (s : Calls Caller) : Move Caller Raised → Prop
  | .advance i => ∀ snapshot, Saves (s.program i) snapshot → h.Intact snapshot ∧
      ∀ row ∈ s.world.verification.snapshots,
        row.snapshot.snapshotId = snapshot.snapshotId ∨
          row.snapshot.workspaceId = snapshot.workspaceId ∧
            row.snapshot.recommendationId = snapshot.recommendationId →
        row.snapshot = snapshot.asRead
  | .fail .. => True

/-! ## The store -/

/-- One row a pair, each with its fingerprint. -/
structure SoundRows (h : Hashing) (rows : List SnapshotRow) : Prop where
  unique : ∀ a ∈ rows, ∀ b ∈ rows, a.snapshot.recommendationId = b.snapshot.recommendationId →
    a.snapshot.workspaceId = b.snapshot.workspaceId → a = b
  signed : ∀ row ∈ rows, row.fingerprint = h.fingerprint row.snapshot

theorem mem_saved {rows : List SnapshotRow} {row other : SnapshotRow} :
    other ∈ insertOrReplace SnapshotRow.clashes rows row ↔ (other ∈ rows ∧
      other.snapshot.snapshotId ≠ row.snapshot.snapshotId ∧
        ¬ (other.snapshot.workspaceId = row.snapshot.workspaceId ∧
          other.snapshot.recommendationId = row.snapshot.recommendationId)) ∨ other = row := by
  rw [mem_insertOrReplace, SnapshotRow.clashes, decide_eq_false_iff_not, not_or]

theorem SoundRows.saved {rows : List SnapshotRow} (sound : SoundRows h rows)
    {snapshot : BaselineSnapshot} (intact : h.Intact snapshot) :
    SoundRows h (insertOrReplace SnapshotRow.clashes rows (h.row snapshot)) := by
  constructor
  · intro a memberA b memberB recommendation workspace
    obtain ⟨oldA, -, otherA⟩ | rfl := mem_saved.mp memberA <;>
      obtain ⟨oldB, -, otherB⟩ | rfl := mem_saved.mp memberB
    · exact sound.unique a oldA b oldB recommendation workspace
    · exact absurd ⟨workspace, recommendation⟩ otherA
    · exact absurd ⟨workspace.symm, recommendation.symm⟩ otherB
    · rfl
  · intro row member
    obtain ⟨old, -⟩ | rfl := mem_saved.mp member
    · exact sound.signed row old
    · exact intact.symm

theorem isOf_iff {recommendationId workspaceId : Str} {row : SnapshotRow} :
    row.isOf recommendationId workspaceId = true ↔
      row.snapshot.recommendationId = recommendationId ∧
        row.snapshot.workspaceId = workspaceId := by
  simp [SnapshotRow.isOf]

theorem stored_iff {w : World} {recommendationId workspaceId : Str} {snapshot : BaselineSnapshot} :
    Stored h w recommendationId workspaceId snapshot ↔
      ∃ row, w.verification.snapshots.find? (SnapshotRow.isOf recommendationId workspaceId) =
          some row ∧
        row.fingerprint = h.fingerprint snapshot ∧ row.snapshot = snapshot := by
  rw [Stored, Hashing.getBaselineSnapshot]
  split
  · next missing => simp [missing]
  · next row found =>
    rw [found]
    split_ifs with tampered
    · simp only [Option.some.injEq, exists_eq_left', false_iff, not_and]
      rintro signed rfl
      exact tampered signed.symm
    · simp only [Except.ok.injEq, Option.some.injEq, exists_eq_left']
      constructor
      · rintro rfl
        exact ⟨(not_not.mp tampered).symm, rfl⟩
      · exact And.right

theorem stored_of_mem {w : World} (sound : SoundRows h w.verification.snapshots) {row : SnapshotRow}
    (member : row ∈ w.verification.snapshots) :
    Stored h w row.snapshot.recommendationId row.snapshot.workspaceId row.snapshot := by
  refine stored_iff.mpr ⟨row, ?_, sound.signed row member, rfl⟩
  cases found : w.verification.snapshots.find?
      (SnapshotRow.isOf row.snapshot.recommendationId row.snapshot.workspaceId) with
  | none => exact absurd (isOf_iff.mpr ⟨rfl, rfl⟩) (List.find?_eq_none.mp found row member)
  | some other =>
    obtain ⟨recommendation, workspace⟩ := isOf_iff.mp (List.find?_some found)
    rw [sound.unique other (List.mem_of_find?_eq_some found) row member recommendation workspace]

theorem handle_get {store store' : VerificationStore} {recommendationId workspaceId : Str}
    {found : Option BaselineSnapshot}
    (handled : h.handle store (.getBaselineSnapshot recommendationId workspaceId) =
      .ok (store', found)) :
    store' = store ∧ h.getBaselineSnapshot store recommendationId workspaceId = .ok found := by
  simp only [Hashing.handle] at handled
  cases got : h.getBaselineSnapshot store recommendationId workspaceId with
  | error => simp [got, Except.map] at handled
  | ok snapshot => rw [got] at handled; cases handled; exact ⟨rfl, rfl⟩

theorem snapshots_of_handle {w w' : World} {op : Op} {answer : Answer op}
    (handled : handle h w op = .ok (w', answer)) :
    w'.verification.snapshots = w.verification.snapshots ∨
      ∃ snapshot, op = .verification (.saveBaselineSnapshot snapshot) ∧
        (storable snapshot.baselineRequests ∧ storable snapshot.baselineAcceptedOutcomes) ∧
        w'.verification.snapshots = insertOrReplace SnapshotRow.clashes w.verification.snapshots
          (h.row snapshot) := by
  cases op with
  | trust op => obtain ⟨_, -, rfl⟩ := handle_trust handled; exact Or.inl rfl
  | verification op =>
    obtain ⟨store, answered, rfl⟩ := handle_verification handled
    cases op with
    | saveBaselineSnapshot snapshot =>
      simp only [Hashing.handle] at answered
      split at answered
      · next fits => cases answered; exact Or.inr ⟨snapshot, rfl, fits, rfl⟩
      · cases answered
    | getBaselineSnapshot recommendationId workspaceId =>
      obtain ⟨rfl, -⟩ := handle_get answered
      exact Or.inl rfl
    | saveVerificationRecord record =>
      simp only [Hashing.handle] at answered
      split at answered
      · cases answered; exact Or.inl rfl
      · cases answered
  | _ => cases handled; exact Or.inl rfl

theorem find?_saved {w : World} {rows : List SnapshotRow} {snapshot : BaselineSnapshot}
    (saved : w.verification.snapshots =
      insertOrReplace SnapshotRow.clashes rows (h.row snapshot)) :
    w.verification.snapshots.find?
      (SnapshotRow.isOf snapshot.recommendationId snapshot.workspaceId) = some (h.row snapshot) := by
  have its : (h.row snapshot).isOf snapshot.recommendationId snapshot.workspaceId = true :=
    isOf_iff.mpr ⟨rfl, rfl⟩
  rw [saved, find?_insertOrReplace_self its]
  intro other _ matching
  obtain ⟨recommendation, workspace⟩ := isOf_iff.mp matching
  rw [SnapshotRow.clashes, decide_eq_true_eq]
  exact Or.inr ⟨workspace, recommendation⟩

theorem stored_saved {w : World} {rows : List SnapshotRow} {snapshot : BaselineSnapshot}
    (saved : w.verification.snapshots =
      insertOrReplace SnapshotRow.clashes rows (h.row snapshot)) :
    Stored h w snapshot.recommendationId snapshot.workspaceId snapshot.asRead ↔
      h.Intact snapshot := by
  rw [stored_iff, find?_saved saved]
  simp [Hashing.row, Hashing.Intact, eq_comm]

/-- A snapshot that replaces nothing leaves every stored one to be found. -/
theorem Stored.kept {w w' : World} {snapshot new : BaselineSnapshot}
    {recommendationId workspaceId : Str}
    (stored : Stored h w recommendationId workspaceId snapshot) (intact : h.Intact new)
    (replaces : ∀ row ∈ w.verification.snapshots, row.snapshot.snapshotId = new.snapshotId ∨
      row.snapshot.workspaceId = new.workspaceId ∧
        row.snapshot.recommendationId = new.recommendationId → row.snapshot = new.asRead)
    (saved : w'.verification.snapshots = insertOrReplace SnapshotRow.clashes
      w.verification.snapshots (h.row new)) :
    Stored h w' recommendationId workspaceId snapshot := by
  obtain ⟨row, found, signed, rfl⟩ := stored_iff.mp stored
  have member := List.mem_of_find?_eq_some found
  obtain ⟨rfl, rfl⟩ := isOf_iff.mp (List.find?_some found)
  by_cases same : new.recommendationId = row.snapshot.recommendationId ∧
      new.workspaceId = row.snapshot.workspaceId
  · rw [replaces row member (Or.inr ⟨same.2.symm, same.1.symm⟩)]
    exact (stored_saved saved).mpr intact
  · refine stored_iff.mpr ⟨row, ?_, signed, rfl⟩
    have missed : ¬ (h.row new).isOf row.snapshot.recommendationId row.snapshot.workspaceId = true :=
      fun its => same (isOf_iff.mp its)
    rw [saved, find?_insertOrReplace_of_ne (Bool.eq_false_iff.mpr missed) ?_, found]
    intro other old matching
    by_contra clash
    rw [Bool.not_eq_false, SnapshotRow.clashes, decide_eq_true_eq] at clash
    have its := replaces other old clash
    rw [isOf_iff, its] at matching
    exact same matching

/-! ## The contract of a call -/

def certifying (h : Hashing) (request : Request) : Contract World Op Answer Raised Reply where
  rely _ w w' := ∀ recommendationId workspaceId snapshot,
    Stored h w recommendationId workspaceId snapshot →
      Stored h w' recommendationId workspaceId snapshot
  good w p := Certified h request w p
  mayAdvance _ _ := True
  mayFail _ _ := True
  refl _ _ _ _ _ stored := stored
  trans _ _ _ _ first second _ _ _ stored := second _ _ _ (first _ _ _ stored)

section

variable {request : Request} {w : World}

theorem certified_of_ne {p : Call Reply}
    (other : ∀ record, p.pending ≠ some (.verification (.saveVerificationRecord record))) :
    Certified h request w p :=
  fun record saving => absurd saving (other record)

theorem certifying_rests (w : World) (error : Raised) :
    (certifying h request).Rests (.raised error) w :=
  fun _ _ _ saving => by cases saving

theorem certifying_await {op : Op} {next : Answer op → Call Reply}
    (other : ∀ record, op ≠ .verification (.saveVerificationRecord record))
    (rest : ∀ answer w, (certifying h request).Always (handle h) (next answer) w) :
    (certifying h request).Always (handle h) (.await op next) w := by
  have quiet : ∀ record, some op ≠ some (.verification (.saveVerificationRecord record)) :=
    fun record same => other record (Option.some.inj same)
  apply Contract.Always.await_of_rests certifying_rests (fun _ => True) trivial
    (fun _ _ _ _ => trivial)
  · exact fun w _ => certified_of_ne quiet
  · exact fun w w' answer _ _ => rest answer w'

theorem certifying_done {reply : Reply} : (certifying h request).Always (handle h) (done reply) w :=
  fun _ _ _ saving => by cases saving

theorem certifying_raised {error : Raised} :
    (certifying h request).Always (handle h) (raised error) w :=
  certifying_rests w error

/-- A verdict is computed against the baseline that was read, which stays stored. -/
theorem certifying_verifySavings {o : Observation} (its : request.observation = some o)
    {k : SavingsVerificationRecord → Call Reply}
    (rest : ∀ record w, (certifying h request).Always (handle h) (k record) w) :
    (certifying h request).Always (handle h)
      (Call.ofVerification (verifySavings h o) >>= k) w := by
  apply Contract.Always.await_of_rests certifying_rests (fun _ => True) trivial
    (fun _ _ _ _ => trivial)
  · exact fun w _ => certified_of_ne (fun record same => by cases same)
  · intro w w' found _ read
    cases found with
    | none => exact certifying_raised
    | some baseline =>
      have stored : Stored h w' o.recommendationId o.workspaceId baseline := by
        obtain ⟨store, answered, rfl⟩ := handle_verification read
        obtain ⟨rfl, got⟩ := handle_get answered
        exact got
      show (certifying h request).Always (handle h) (Call.ofVerification
        (Verification.saveCertified (o.certify h baseline)) >>= k) w'
      cases computed : o.certify h baseline with
      | error => exact certifying_raised
      | ok record =>
        apply Contract.Always.await_of_rests certifying_rests
          (fun w => Stored h w o.recommendationId o.workspaceId baseline) stored
        · exact fun w w' rely stored => rely _ _ _ stored
        · intro w stored record' saving
          cases saving
          exact ⟨o, baseline, its, stored, computed⟩
        · exact fun w w' answer _ _ => rest record w'

variable {c : Cycle} {k : AutonomousLoopResult → Call Reply}

theorem certifying_log {timeline : List AuditEntry} {stage : AutonomousLoopStage} {action : Str}
    {details : Fields} {k : List AuditEntry → Call Reply}
    (rest : ∀ timeline w, (certifying h request).Always (handle h) (k timeline) w) :
    (certifying h request).Always (handle h) (c.log timeline stage action details >>= k) w := by
  apply certifying_await
  · exact fun record same => by cases same
  · exact fun _ w => rest _ w

theorem certifying_evaluateAgentTrust {e : Evidence} {k : AgentTrustProfile → Call Reply}
    (rest : ∀ profile w, (certifying h request).Always (handle h) (k profile) w) :
    (certifying h request).Always (handle h) (Call.ofTrust (evaluateAgentTrust e) >>= k) w := by
  apply certifying_await
  · exact fun record same => by cases same
  · exact fun _ w => rest _ w

theorem certifying_checkAutonomyEligibility {a : Action} {k : AutonomyEligibilityCheck → Call Reply}
    (rest : ∀ check w, (certifying h request).Always (handle h) (k check) w) :
    (certifying h request).Always (handle h)
      (Call.ofTrust (checkAutonomyEligibility lower a) >>= k) w := by
  apply certifying_await
  · exact fun record same => by cases same
  · intro stored w
    cases stored with
    | none =>
      apply certifying_await
      · exact fun record same => by cases same
      · intro _ w
        apply certifying_await
        · exact fun record same => by cases same
        · exact fun _ w => rest _ w
    | some profile =>
      apply certifying_await
      · exact fun record same => by cases same
      · exact fun _ w => rest _ w

theorem certifying_settle {verification : SavingsVerificationRecord} {timeline : List AuditEntry}
    (rest : ∀ result w, (certifying h request).Always (handle h) (k result) w) :
    (certifying h request).Always (handle h) (c.settle verification timeline >>= k) w := by
  rw [Cycle.settle]
  split
  · simp only [Program.bind_assoc, perform_bind, await_bind, pure_eq, done_bind]
    apply certifying_await
    · exact fun record same => by cases same
    intro _ w
    apply certifying_log
    intro timeline w
    apply certifying_evaluateAgentTrust
    intro profile w
    exact certifying_log fun timeline w => rest _ w
  · simp only [Program.bind_assoc, perform_bind, await_bind, pure_eq, done_bind]
    apply certifying_await
    · exact fun record same => by cases same
    intro _ w
    apply certifying_log
    intro timeline w
    apply certifying_evaluateAgentTrust
    intro profile w
    exact certifying_log fun timeline w => rest _ w

theorem certifying_deploy {timeline : List AuditEntry} (its : request.observation = some c.observation)
    (rest : ∀ result w, (certifying h request).Always (handle h) (k result) w) :
    (certifying h request).Always (handle h) (c.deploy h timeline >>= k) w := by
  simp only [Cycle.deploy, Cycle.observe, Cycle.verify, recordBaseline, Program.bind_assoc,
    perform_bind, await_bind]
  apply certifying_await
  · exact fun record same => by cases same
  intro _ w
  apply certifying_log
  intro timeline w
  split
  · exact certifying_raised
  · apply certifying_await
    · exact fun record same => by cases same
    intro _ w
    apply certifying_log
    intro timeline w
    apply certifying_verifySavings its
    intro record w
    apply certifying_log
    intro timeline w
    exact certifying_settle rest

theorem certifying_execute (its : request.observation = some c.observation)
    (rest : ∀ result w, (certifying h request).Always (handle h) (k result) w) :
    (certifying h request).Always (handle h) (c.execute lower h >>= k) w := by
  simp only [Cycle.execute, Cycle.checkPolicy, perform_bind, await_bind]
  apply certifying_await
  · exact fun record same => by cases same
  intro killSwitched w
  split
  · simp only [Program.bind_assoc, pure_eq, done_bind]
    exact certifying_log fun timeline w => rest _ w
  · simp only [Program.bind_assoc]
    apply certifying_log
    intro timeline w
    apply certifying_log
    intro timeline w
    apply certifying_log
    intro timeline w
    apply certifying_checkAutonomyEligibility
    intro check w
    split
    · simp only [Program.bind_assoc]
      exact certifying_log fun timeline w => certifying_deploy its rest
    · simp only [Program.bind_assoc, pure_eq, done_bind]
      exact certifying_log fun timeline w => rest _ w

theorem certifying_program (request : Request) :
    (certifying h request).Always (handle h) (request.program lower h) w := by
  cases request with
  | executeOptimizationCycle c => exact certifying_execute rfl fun _ _ => certifying_done
  | verifySavings o => exact certifying_verifySavings rfl fun _ _ => certifying_done
  | recordBaseline b =>
    simp only [Request.program, recordBaseline]
    split
    · exact certifying_raised
    · apply certifying_await
      · exact fun record same => by cases same
      · exact fun _ _ => certifying_done
  | setWorkspaceKillSwitch | getBaselineSnapshot =>
    apply certifying_await
    · exact fun record same => by cases same
    · exact fun _ _ => certifying_done

end

/-! ## Every interleaving -/

structure Consistent (h : Hashing) (requests : Caller → Request) (s : Calls Caller) : Prop where
  sound : SoundRows h s.world.verification.snapshots
  certifying : ∀ i, (certifying h (requests i)).Always (handle h) (s.program i) s.world

variable {requests : Caller → Request} {s s' : Calls Caller}

theorem snapshots_of_after {w w' : World} {p p' : Call Reply}
    (stepped : after (handle h) w p = some (w', p')) :
    w'.verification.snapshots = w.verification.snapshots ∨
      ∃ snapshot, Saves p snapshot ∧ w'.verification.snapshots = insertOrReplace SnapshotRow.clashes w.verification.snapshots
          (h.row snapshot) := by
  obtain ⟨op, next, rfl, ⟨answer, handled, -⟩ | ⟨-, -, rfl, -⟩⟩ := after_cases stepped
  · refine (snapshots_of_handle handled).imp_right ?_
    rintro ⟨snapshot, rfl, fits, saved⟩
    exact ⟨snapshot, ⟨rfl, fits⟩, saved⟩
  · exact Or.inl rfl

theorem Stored.of_same {w w' : World} {recommendationId workspaceId : Str}
    {snapshot : BaselineSnapshot} (stored : Stored h w recommendationId workspaceId snapshot)
    (same : w'.verification.snapshots = w.verification.snapshots) :
    Stored h w' recommendationId workspaceId snapshot := by
  rw [stored_iff, same]
  exact stored_iff.mp stored

theorem stored_of_after {i : Caller} {w : World} {p : Call Reply}
    (replaces : ReplacesNothing h s (.advance i))
    (stepped : after (handle h) s.world (s.program i) = some (w, p)) (recommendationId workspaceId : Str)
    (snapshot : BaselineSnapshot) (stored : Stored h s.world recommendationId workspaceId snapshot) :
    Stored h w recommendationId workspaceId snapshot := by
  obtain same | ⟨new, saves, saved⟩ := snapshots_of_after stepped
  · exact stored.of_same same
  · exact stored.kept (replaces new saves).1 (replaces new saves).2 saved

variable [DecidableEq Caller]

theorem sound_of_step {move : Move Caller Raised}
    (sound : SoundRows h s.world.verification.snapshots) (replaces : ReplacesNothing h s move)
    (stepped : (pool (handle h)).step s move = some s') :
    SoundRows h s'.world.verification.snapshots := by
  cases move with
  | advance i =>
    obtain ⟨⟨w, p⟩, went, rfl⟩ := Option.map_eq_some_iff.mp stepped
    obtain same | ⟨new, saves, saved⟩ := snapshots_of_after went
    · exact same ▸ sound
    · exact saved ▸ sound.saved (replaces new saves).1
  | fail i error =>
    obtain ⟨p, -, rfl⟩ := Option.map_eq_some_iff.mp stepped
    exact sound

theorem consistent_preserves :
    (pool (handle h)).Preserves (ReplacesNothing h) (Consistent h requests) := by
  intro s move s' consistent replaces stepped
  refine ⟨sound_of_step consistent.sound replaces stepped, ?_⟩
  refine Pool.preserves (fun i => certifying h (requests i)) (ReplacesNothing h) ?_ ?_ ?_
    s move s' consistent.certifying replaces stepped
  · exact fun s i w p _ replaces went j _ => stored_of_after replaces went
  · exact fun _ _ _ _ => trivial
  · exact fun _ _ _ _ _ => trivial

theorem step_of_saves {i : Caller} {snapshot : BaselineSnapshot} (saves : Saves (s.program i) snapshot) :
    ∃ s', (pool (handle h)).step s (.advance i) = some s' := by
  obtain ⟨next, awaits⟩ := await_of_pending saves.1
  simp [pool, after, awaits, handle, Hashing.handle, saves.2, Except.map]

theorem saved_of_step {i : Caller} {snapshot : BaselineSnapshot} (saves : Saves (s.program i) snapshot)
    (stepped : (pool (handle h)).step s (.advance i) = some s') :
    s'.world.verification.snapshots =
      insertOrReplace SnapshotRow.clashes s.world.verification.snapshots (h.row snapshot) := by
  obtain ⟨next, awaits⟩ := await_of_pending saves.1
  simp [pool, after, awaits, handle, Hashing.handle, saves.2, Except.map] at stepped
  rw [← stepped]
  rfl

/-- The property at a step, for a step that the machine can take. -/
def KeepsBaselines (h : Hashing) (requests : Caller → Request) (s : Calls Caller)
    (move : Move Caller Raised) : Prop :=
  ∀ s', (pool (handle h)).step s move = some s' → Kept h requests s move s'

theorem keepsBaselines_of_replacesNothing {move : Move Caller Raised}
    (consistent : Consistent h requests s) (replaces : ReplacesNothing h s move) :
    KeepsBaselines h requests s move := by
  intro s' stepped
  refine ⟨?_, ?_, fun i =>
    ((consistent_preserves s move s' consistent replaces stepped).certifying i).good⟩
  · rintro i snapshot rfl saves
    have at_ := saved_of_step saves stepped
    exact (stored_saved at_).mpr (replaces snapshot saves).1
  cases move with
  | advance i =>
    obtain ⟨⟨w, p⟩, went, rfl⟩ := Option.map_eq_some_iff.mp stepped
    exact stored_of_after replaces went
  | fail i error =>
    obtain ⟨p, -, rfl⟩ := Option.map_eq_some_iff.mp stepped
    exact fun _ _ _ stored => stored

/-- A row that makes room for another snapshot is not found any more. -/
theorem replacesNothing_of_keepsBaselines {move : Move Caller Raised}
    (sound : SoundRows h s.world.verification.snapshots) (keeps : KeepsBaselines h requests s move) :
    ReplacesNothing h s move := by
  cases move with
  | fail => trivial
  | advance i =>
    intro snapshot saves
    obtain ⟨s', stepped⟩ := step_of_saves saves
    have kept := keeps s' stepped
    have saved := saved_of_step saves stepped
    refine ⟨(stored_saved saved).mp (kept.recorded i snapshot rfl saves), ?_⟩
    intro row member clash
    have stored := kept.stored _ _ _ (stored_of_mem sound member)
    obtain ⟨other, found, -, its⟩ := stored_iff.mp stored
    obtain ⟨recommendation, workspace⟩ := isOf_iff.mp (List.find?_some found)
    rw [saved] at found
    obtain ⟨old, apart⟩ | rfl := mem_saved.mp (List.mem_of_find?_eq_some found)
    · obtain rfl := sound.unique other old row member recommendation workspace
      exact absurd clash (not_or.mpr apart)
    · exact its.symm

def World.withoutBaselines (w : World) : World :=
  { w with verification := { w.verification with snapshots := [] } }

/-- Immutable baselines: in every interleaving of calls, all recorded baselines stay and
    all verdicts are computed against them if and only if no snapshot is saved over another, or
    with a negative zero in its fingerprint. -/
theorem baselines_immutable (lower : Str → Str) (h : Hashing) (requests : Caller → Request)
    (w : World) (moves : List (Move Caller Raised)) :
    (pool (handle h)).Guarded (KeepsBaselines h requests)
        (start lower h w.withoutBaselines requests) moves ↔
      (pool (handle h)).Guarded (ReplacesNothing h)
        (start lower h w.withoutBaselines requests) moves := by
  apply (pool (handle h)).guarded_iff (Consistent h requests) _ consistent_preserves
  · refine ⟨⟨?_, ?_⟩, fun i => certifying_program (requests i)⟩
    · exact fun _ member => absurd member List.not_mem_nil
    · exact fun _ member => absurd member List.not_mem_nil
  · intro s move consistent
    exact ⟨replacesNothing_of_keepsBaselines consistent.sound,
      keepsBaselines_of_replacesNothing consistent⟩

section RecordedTwice

def plain : Hashing := ⟨fun text => text, fun time => decimal time⟩

/-- Recorded once at 100 USD and once at 900 USD. -/
def recordedAt (expensive : Bool) : Request :=
  .recordBaseline
    { recommendationId := "rec-1"
      workspaceId := "default"
      baselineCostUsd := if expensive then 900 else 100
      baselineRequests := 1000
      baselineAcceptedOutcomes := 950
      snapshotId := if expensive then "snap-2" else "snap-1"
      createdAt := 0 }

theorem baseline_replaced :
    ¬ (pool (handle plain)).Guarded (KeepsBaselines plain recordedAt)
      (start id plain ⟨[], [], [], ⟨[], []⟩, ⟨[], []⟩⟩ recordedAt)
      [.advance false, .advance true] := by
  intro kept
  have first := (kept.1 _ rfl).recorded false _ rfl ⟨rfl, by decide⟩
  have stored := ((kept.2 _ rfl).1 _ rfl).stored _ _ _ first
  obtain ⟨row, found, -, its⟩ := stored_iff.mp stored
  cases found
  exact absurd its (by decide)

end RecordedTwice

end BurnLens.Autonomy
