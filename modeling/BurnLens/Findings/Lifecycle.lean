import BurnLens.Findings.Store
import BurnLens.Library.Fleet

/-! # Passes and decisions at once

Detection passes and decisions of users at the same time, statement by statement, and what every
statement leaves of the table: no row is gone, and no resolution is cleared.
-/

namespace BurnLens.Findings

open Library

/-! ## Calls -/

inductive FindingCall where
  -- `sync_findings`, after the detectors
  | sync (findings : List WasteFinding) (now : Moment)
  -- `set_finding_status`
  | set (fingerprint : Str) (status : Str) (call : Resolve)

/-- What has happened, the newest first: a user's decision that is stored, or a detection. -/
inductive FindingLog where
  | decided (fingerprint : Str) (status : FindingStatus)
  | detected (fingerprints : List Str)
deriving DecidableEq

structure FindingWorld where
  rows : FindingTable
  requests : List (Dated SubjectRequest) := []
  log : List FindingLog := []

/-- Where a call is.  A pass knows what had happened when its detectors had run, and a write of it
    what had happened when it read the status. -/
inductive FindingPhase where
  | entering
  | reading (detected : List FindingLog) (rest : List WasteFinding)
  | writing (detected read : List FindingLog) (existing : Option FindingStatus)
    (finding : WasteFinding) (rest : List WasteFinding)
  | measuring (existing : StoredFinding)
  | resolving (existing : StoredFinding) (baseline : ℚ × Nat)
  | synced
  | failed
  | decided (found : Bool)
  | refused

namespace FindingWorld

variable (w : FindingWorld) (site : Site)

/-- The write of a decision, which is none where there is no such row. -/
def decideBy (fingerprint : Str) (status : FindingStatus) (change : StoredFinding → StoredFinding) :
    FindingWorld × FindingPhase :=
  let found := (w.rows.row? fingerprint).isSome
  ({ w with
      rows := w.rows.update fingerprint change
      log := if found then .decided fingerprint status :: w.log else w.log }, .decided found)

/-- The next statement of a call.  In the local database a pass holds the write lock from its first
    write to its commit; in the cloud each statement is committed at once. -/
def advance : FindingCall → FindingPhase → Option (FindingWorld × FindingPhase)
  | .sync findings _, .entering =>
    let log := .detected (findings.map WasteFinding.fingerprint) :: w.log
    some ({ w with log }, .reading log findings)
  | .sync _ _, .reading _ [] => some (w, .synced)
  | .sync _ _, .reading detected (finding :: rest) =>
    some (w, .writing detected w.log (readStatus w.rows finding) finding rest)
  | .sync _ now, .writing detected _ existing finding rest =>
    some <| match writeFinding w.rows finding now existing with
      | none => (w, .failed)
      | some rows =>
        match site.database with
        | .postgres => ({ w with rows }, .reading detected rest)
        | .sqlite =>
          match syncFindings now rows rest with
          | none => (w, .failed)
          | some rows => ({ w with rows }, .synced)
  | .set fingerprint status _, .entering =>
    some <| match FindingStatus.ofText? status with
      | none => (w, .refused)
      | some .resolved =>
        (w, match w.rows.row? fingerprint with
          | none => .decided false
          | some existing => .measuring existing)
      | some status => w.decideBy fingerprint status fun row => { row with status }
  | .set _ _ call, .measuring existing =>
    let spend := getSubjectSpend site w.requests (call.scope existing) call.baselineWindow
    some (w, .resolving existing spend)
  | .set fingerprint _ call, .resolving existing baseline =>
    some (w.decideBy fingerprint .resolved (call.resolved site existing baseline))
  | _, _ => none

end FindingWorld

abbrev FindingState := Fleet FindingWorld FindingCall FindingPhase
abbrev FindingMachineLabel := FleetLabel (Dated SubjectRequest)

def findingRoutes (site : Site) : Routes FindingWorld FindingCall FindingPhase (Dated SubjectRequest) where
  advance w := w.advance site
  happen w request := { w with requests := w.requests ++ [request] }

def findingMachine (site : Site) : Machine FindingState FindingMachineLabel := (findingRoutes site).machine

/-- No call has begun, and what the rows say is what the users have decided. -/
structure FindingState.Undecided (s : FindingState) : Prop where
  entering : ∀ call phase, (call, phase) ∈ s.calls → phase = .entering
  distinct : (s.world.rows.map StoredFinding.fingerprint).Nodup
  log : s.world.log = s.world.rows.map fun row => .decided row.fingerprint row.status

/-! ## The table -/

namespace FindingTable

variable {rows : FindingTable} {fingerprint other : Str} {row : StoredFinding}
  {change : StoredFinding → StoredFinding}

theorem row?_update (keeps : ∀ row, (change row).fingerprint = row.fingerprint) :
    (rows.update fingerprint change).row? other =
      (rows.row? other).map fun row => if row.fingerprint = fingerprint then change row else row := by
  rw [row?, update, List.find?_map, row?]
  congr 2
  funext row
  simp only [Function.comp_apply]
  split <;> simp [keeps]

theorem row?_some (found : rows.row? fingerprint = some row) :
    row ∈ rows ∧ row.fingerprint = fingerprint := by
  have its := List.find?_some found
  exact ⟨List.mem_of_find?_eq_some found, of_decide_eq_true its⟩

theorem row?_of_mem (member : row ∈ rows) : (rows.row? row.fingerprint).isSome :=
  List.find?_isSome.mpr ⟨row, member, decide_eq_true rfl⟩

theorem row?_append (rows more : FindingTable) :
    FindingTable.row? (rows ++ more) fingerprint =
      (rows.row? fingerprint).or (FindingTable.row? more fingerprint) :=
  List.find?_append ..

end FindingTable

/-- Later rows: none is gone, and none has lost its resolution. -/
def FindingTable.Later (rows rows' : FindingTable) : Prop :=
  ∀ fingerprint row, rows.row? fingerprint = some row →
    ∃ row', rows'.row? fingerprint = some row' ∧ (row.resolvedAt.isSome → row'.resolvedAt.isSome)

section

variable {rows rows' rows'' : FindingTable} {finding : WasteFinding} {now : Moment}
  {existing : Option FindingStatus}

theorem FindingTable.Later.refl : rows.Later rows := fun _ row found => ⟨row, found, id⟩

theorem FindingTable.Later.trans (later : rows.Later rows') (further : rows'.Later rows'') :
    rows.Later rows'' := by
  intro fingerprint row found
  obtain ⟨row', found', kept⟩ := later fingerprint row found
  obtain ⟨row'', found'', kept'⟩ := further fingerprint row' found'
  exact ⟨row'', found'', fun resolved => kept' (kept resolved)⟩

theorem FindingTable.Later.update {fingerprint : Str} {change : StoredFinding → StoredFinding}
    (keeps : ∀ row, (change row).fingerprint = row.fingerprint)
    (resolved : ∀ row, row.resolvedAt.isSome → (change row).resolvedAt.isSome) :
    rows.Later (rows.update fingerprint change) := by
  intro other row found
  rw [row?_update keeps, found]
  refine ⟨_, rfl, fun has => ?_⟩
  dsimp only
  split
  · exact resolved row has
  · exact has

theorem row?_refreshed {status : FindingStatus} {fingerprint : Str} :
    (rows.update finding.fingerprint (finding.refreshed now status)).row? fingerprint =
      (rows.row? fingerprint).map fun row =>
        if row.fingerprint = finding.fingerprint then finding.refreshed now status row else row :=
  FindingTable.row?_update fun _ => rfl

theorem later_writeFinding (wrote : writeFinding rows finding now existing = some rows') :
    rows.Later rows' := by
  cases existing with
  | some status =>
    cases wrote
    exact .update (fun _ => rfl) fun _ => id
  | none =>
    rw [writeFinding] at wrote
    split at wrote
    · cases wrote
    · cases wrote
      intro fingerprint row found
      exact ⟨row, by rw [FindingTable.row?_append, found, Option.some_or], id⟩

theorem later_syncFindings {findings : List WasteFinding}
    (synced : syncFindings now rows findings = some rows') : rows.Later rows' := by
  induction findings generalizing rows with
  | nil =>
    cases synced
    exact .refl
  | cons finding findings inductionHypothesis =>
    obtain ⟨next, wrote, rest⟩ := Option.bind_eq_some_iff.mp synced
    exact (later_writeFinding wrote).trans (inductionHypothesis rest)

end

/-! ## One statement -/

/-- More has happened. -/
structure FindingWorld.Before (w w' : FindingWorld) : Prop where
  log : w.log <:+ w'.log
  rows : w.rows.Later w'.rows

section

variable {site : Site} {s : FindingState} {w w' : FindingWorld} {call : FindingCall}
  {phase next : FindingPhase} {fingerprint : Str} {status : FindingStatus}
  {change : StoredFinding → StoredFinding}

/-- The `UPDATE` of a decision. -/
structure Decides (status : FindingStatus) (change : StoredFinding → StoredFinding) : Prop where
  fingerprint : ∀ row, (change row).fingerprint = row.fingerprint
  status : ∀ row, (change row).status = status
  resolved : ∀ row, row.resolvedAt.isSome → (change row).resolvedAt.isSome

theorem decides_setStatus : Decides status fun row => { row with status } :=
  ⟨fun _ => rfl, fun _ => rfl, fun _ => id⟩

theorem decides_resolved (call : Resolve) (existing : StoredFinding) (baseline : ℚ × Nat) :
    Decides .resolved (call.resolved site existing baseline) :=
  ⟨fun _ => rfl, fun _ => rfl, fun _ _ => rfl⟩

theorem Decides.before (decides : Decides status change) (w : FindingWorld) :
    w.Before (w.decideBy fingerprint status change).1 where
  log := by
    rw [FindingWorld.decideBy]
    dsimp only
    split
    · exact List.suffix_cons _ _
    · exact List.suffix_refl _
  rows := .update decides.fingerprint decides.resolved

theorem advance_before (went : w.advance site call phase = some (w', next)) : w.Before w' := by
  have same : w.Before w := ⟨List.suffix_refl _, .refl⟩
  cases call with
  | sync findings now =>
    cases phase with
    | entering =>
      cases went
      exact ⟨List.suffix_cons _ _, .refl⟩
    | reading detected rest =>
      cases rest <;> cases went <;> exact same
    | writing detected read existing finding rest =>
      rw [FindingWorld.advance] at went
      cases wrote : writeFinding w.rows finding now existing with
      | none =>
        rw [wrote] at went
        cases went
        exact same
      | some rows =>
        have later := later_writeFinding wrote
        rw [wrote] at went
        cases database : site.database with
        | postgres =>
          simp only [database] at went
          cases went
          exact ⟨List.suffix_refl _, later⟩
        | sqlite =>
          simp only [database] at went
          cases synced : syncFindings now rows rest with
          | none =>
            rw [synced] at went
            cases went
            exact same
          | some after =>
            rw [synced] at went
            cases went
            exact ⟨List.suffix_refl _, later.trans (later_syncFindings synced)⟩
    | _ => cases went
  | set fingerprint status call =>
    cases phase with
    | entering =>
      rw [FindingWorld.advance] at went
      split at went
      · cases went
        exact same
      · cases went
        exact same
      · obtain rfl : _ = w' := congrArg Prod.fst (Option.some.inj went)
        exact decides_setStatus.before w
    | measuring existing =>
      cases went
      exact same
    | resolving existing baseline =>
      obtain rfl : _ = w' := congrArg Prod.fst (Option.some.inj went)
      exact (decides_resolved call existing baseline).before w
    | _ => cases went

/-- What is stored stays, with its resolution, whatever the interleaving. -/
theorem later_step {s' : FindingState} {l : FindingMachineLabel}
    (stepped : (findingMachine site).step s l = some s') : s.world.rows.Later s'.world.rows := by
  cases l with
  | advance k =>
    obtain ⟨call, phase, w, next, found, went, rfl⟩ := advance_cases stepped
    exact (advance_before went).rows
  | happen request =>
    rw [happen_cases stepped]
    exact .refl

theorem later_run {s' : FindingState} {labels : List FindingMachineLabel}
    (ran : (findingMachine site).run s labels = some s') : s.world.rows.Later s'.world.rows := by
  have preserves : ∀ (mid : FindingState) (l : FindingMachineLabel) (next : FindingState),
      s.world.rows.Later mid.world.rows → (findingMachine site).step mid l = some next →
      s.world.rows.Later next.world.rows :=
    fun mid l next later stepped => later.trans (later_step stepped)
  exact (findingMachine site).run_invariant preserves .refl ran

end

def costly : WasteFinding where
  fingerprint := "f"
  detector := "model_overkill"
  subjectType := "model"
  subjectKey := "gpt-4o"
  severity := "high"
  title := "t"
  description := "d"
  estimatedWasteUsd := 1
  affectedCount := 1
  evidence := []

def morning : Moment := ⟨1773705600000000, 0⟩

def morningSite (database : Database) : Site := ⟨database, fun _ => "2026-03-17T00:00:00+00:00"⟩

end BurnLens.Findings
