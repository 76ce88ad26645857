import BurnLens.Backend.Totp

/-! # Replayed codes

The floor under the step of a code is read in one statement and written in a later one.  Where
nobody has accepted a code between the two, the accepted steps rise.
-/

namespace BurnLens.Backend

open Library

def TotpLog.step : TotpLog → Option Int
  | .accepted step => some step
  | _ => none

/-- The steps that were accepted, the newest first. -/
def TotpWorld.accepted (w : TotpWorld) : List Int := w.log.filterMap TotpLog.step

/-- A code is accepted only while the stored floor is the one that was read, and the user is
    enrolled. -/
def floorIsRead (w : TotpWorld) (_ : TotpRequest) (phase : TotpPhase) : Prop :=
  ∀ a ∈ phase.accepts, w.user.secret.isSome = true ∧ w.user.lastStep = a.1.lastStep

instance (w : TotpWorld) (request : TotpRequest) (phase : TotpPhase) :
    Decidable (floorIsRead w request phase) :=
  inferInstanceAs (Decidable (∀ a ∈ phase.accepts, _))

/-- The step that a request goes on to accept is above the floor it has read. -/
def AboveFloor (_ : TotpWorld) (_ : TotpRequest) (phase : TotpPhase) : Prop :=
  ∀ a ∈ phase.accepts, Below a.1.lastStep a.2

/-- While the user is enrolled, the stored floor is at least this. -/
def FloorAtLeast (floor : Int) (w : TotpWorld) : Prop :=
  w.user.secret.isSome = true → ∃ last ∈ w.user.lastStep, floor ≤ last

structure ReplayInvariant (s : TotpState) : Prop where
  rising : s.world.accepted.Pairwise (· > ·)
  floor : ∀ step ∈ s.world.accepted, FloorAtLeast step s.world
  above : s.Each AboveFloor

section

variable {services : TotpServices} {s : TotpState} {w w' : TotpWorld} {k : Nat}
  {request : TotpRequest} {phase next : TotpPhase} {floor : Int}

/-- What a statement does to the floor: nothing, or it accepts a step. -/
theorem request_cases (went : w.request services request phase = some (w', next)) :
    (w'.user.lastStep = w.user.lastStep ∧ w'.user.secret = w.user.secret ∧
      w'.accepted = w.accepted ∧ AboveFloor w' request next) ∨
    ∃ row step, phase.accepts = some (row, step) ∧ w'.accepted = step :: w.accepted ∧
      next.accepts = none ∧ (w'.user.secret.isSome = true → w'.user.lastStep = some step) := by
  have silent : next.accepts = none → AboveFloor w' request next := by
    intro none a its
    rw [none] at its
    cases its
  cases phase with
  | loading =>
    left
    simp only [TotpWorld.request] at went
    split at went <;> cases went <;> exact ⟨rfl, rfl, rfl, silent rfl⟩
  | deciding row =>
    left
    have decided := @decide_decided services w row request
    rw [Option.some.inj went] at decided
    cases decided with
    | refused reply => exact ⟨rfl, rfl, rfl, silent rfl⟩
    | failed reply unlocked => exact ⟨rfl, rfl, rfl, silent rfl⟩
    | passed unlocked above accepts =>
      refine ⟨rfl, rfl, rfl, ?_⟩
      intro a its
      rw [accepts] at its
      cases its
      exact above
    | mistaken unlocked => exact ⟨rfl, rfl, rfl, silent rfl⟩
    | wrong reply unlocked => exact ⟨rfl, rfl, rfl, silent rfl⟩
  | clearing row step =>
    cases went
    exact Or.inr ⟨row, step, rfl, rfl, rfl, fun _ => rfl⟩
  | confirming row step recoveryCodes =>
    cases went
    exact Or.inr ⟨row, step, rfl, rfl, rfl, fun _ => rfl⟩
  | disabling row step =>
    cases went
    exact Or.inr ⟨row, step, rfl, rfl, rfl, fun enrolled => by cases enrolled⟩
  | consuming row =>
    left
    simp only [TotpWorld.request] at went
    split at went <;> cases went <;> exact ⟨rfl, rfl, rfl, silent rfl⟩
  | recovering =>
    cases went
    exact Or.inl ⟨rfl, rfl, rfl, silent rfl⟩
  | registering attempts lockedUntil reply =>
    cases went
    refine Or.inl ⟨rfl, rfl, ?_, silent rfl⟩
    cases lockedUntil <;> rfl
  | deleting recoveryCodes =>
    cases went
    exact Or.inl ⟨rfl, rfl, rfl, silent rfl⟩
  | inserting recoveryCodes =>
    cases recoveryCodes <;> cases went <;> exact Or.inl ⟨rfl, rfl, rfl, silent rfl⟩
  | touching =>
    cases went
    exact Or.inl ⟨rfl, rfl, rfl, silent rfl⟩
  | ended reply => cases went

/-- A statement, taken where the floor is as it was read, keeps what the floor is above. -/
theorem FloorAtLeast.advance (atLeast : FloorAtLeast floor w) (above : AboveFloor w request phase)
    (read : floorIsRead w request phase)
    (went : w.request services request phase = some (w', next)) : FloorAtLeast floor w' := by
  intro enrolled
  obtain ⟨lastStep, secret, _, _⟩ | ⟨row, step, accepts, _, _, last⟩ := request_cases went
  · rw [secret] at enrolled
    rw [lastStep]
    exact atLeast enrolled
  · obtain ⟨there, same⟩ := read _ accepts
    obtain ⟨old, its, below⟩ := atLeast there
    have under : old < step := above _ accepts old (same ▸ its)
    exact ⟨step, last enrolled, by omega⟩

theorem ReplayInvariant.advance (invariant : ReplayInvariant s)
    (found : s.calls[k]? = some (request, phase)) (read : floorIsRead s.world request phase)
    (went : s.world.request services request phase = some (w', next)) :
    ReplayInvariant ⟨w', s.calls.set k (request, next)⟩ := by
  have own := invariant.above.at found
  have kept : ∀ step ∈ s.world.accepted, FloorAtLeast step w' := fun step member =>
    FloorAtLeast.advance (invariant.floor step member) own read went
  have others : ∀ j other phase', j ≠ k → s.calls[j]? = some (other, phase') →
      AboveFloor w' other phase' := fun _ _ _ _ there => invariant.above.at there
  obtain ⟨_, _, accepted, above⟩ | ⟨row, step, accepts, accepted, none, last⟩ := request_cases went
  · refine ⟨?_, ?_, .set above others⟩
    · show w'.accepted.Pairwise (· > ·)
      rw [accepted]
      exact invariant.rising
    · show ∀ step ∈ w'.accepted, FloorAtLeast step w'
      rwa [accepted]
  · obtain ⟨there, same⟩ := read _ accepts
    refine ⟨?_, ?_, .set ?_ others⟩
    · show w'.accepted.Pairwise (· > ·)
      rw [accepted, List.pairwise_cons]
      refine ⟨fun before member => ?_, invariant.rising⟩
      obtain ⟨old, its, below⟩ := invariant.floor before member there
      have under : old < step := own _ accepts old (same ▸ its)
      show before < step
      omega
    · show ∀ step ∈ w'.accepted, FloorAtLeast step w'
      rw [accepted]
      intro before member
      obtain rfl | earlier := List.mem_cons.mp member
      · exact fun enrolled => ⟨before, last enrolled, le_refl before⟩
      · exact kept before earlier
    · intro a its
      rw [none] at its
      cases its

theorem replayInvariant_preserved : (totpMachine services).Preserves
    (Fleet.Meets floorIsRead fun _ _ => True) ReplayInvariant := by
  apply Routes.preserves
  · intro s k request phase w next invariant found read went
    exact invariant.advance found read went
  · intro s time invariant _
    exact ⟨invariant.rising, invariant.floor, invariant.above⟩

theorem floorAtLeast_preserved : (totpMachine services).Preserves
    (Fleet.Meets floorIsRead fun _ _ => True)
    fun s => ReplayInvariant s ∧ FloorAtLeast floor s.world := by
  apply Routes.preserves
  · intro s k request phase w next ⟨invariant, atLeast⟩ found read went
    exact ⟨invariant.advance found read went, FloorAtLeast.advance atLeast (invariant.above.at found) read went⟩
  · intro s time ⟨invariant, atLeast⟩ _
    exact ⟨⟨invariant.rising, invariant.floor, invariant.above⟩, atLeast⟩

theorem ReplayInvariant.fresh (fresh : s.Fresh) : ReplayInvariant s := by
  have none : s.world.accepted = [] := by
    rw [TotpWorld.accepted, fresh.log]
    rfl
  refine ⟨by simp [none], by simp [none], fun request phase member => ?_⟩
  cases fresh.entering request phase member
  intro a its
  cases its

/-- Codes are used once where nobody accepts one between a request's read and its write: in
    every run in which a code is accepted only while the stored floor is the one that was read,
    no step is accepted twice, and the floor of an enrolled user never falls. -/
theorem totp_codes_single_use (services : TotpServices) (s s' : TotpState)
    (labels : List TotpLabel) (fresh : s.Fresh)
    (read : (totpMachine services).Guarded (Fleet.Meets floorIsRead fun _ _ => True) s labels)
    (ran : (totpMachine services).run s labels = some s') :
    s'.world.accepted.Nodup ∧
      ∀ before after mid, labels = before ++ after →
        (totpMachine services).run s before = some mid → s'.world.user.secret.isSome = true →
        ∀ last ∈ mid.world.user.lastStep, ∃ last' ∈ s'.world.user.lastStep, last ≤ last' := by
  constructor
  · have invariant := replayInvariant_preserved.run _ (.fresh fresh) read ran
    exact invariant.rising.imp fun above => ne_of_gt above
  · rintro before after mid rfl early enrolled last its
    obtain ⟨first, rest⟩ := (totpMachine services).guarded_append read
    have invariant := replayInvariant_preserved.run _ (.fresh fresh) first early
    rw [Machine.run_append, early] at ran
    exact (floorAtLeast_preserved.run _ ⟨invariant, fun _ => ⟨last, its, le_refl last⟩⟩
      (rest mid early) ran).2 enrolled

/-! ## One code in two requests -/

/-- An authenticator whose code of a step is the step. -/
def stepCodes : TotpServices where
  isDigit c := c.isDigit
  codeMatches _ code step := code = (Nat.repr step.toNat).toList
  hashRecoveryCode := id

/-- An enrolled user, of whom some requests come with the code of one step. -/
def sameCode (n : Nat) : TotpState where
  world := {
    now := 30 * 100023
    user := { secret := some "s", confirmed := true, lastStep := some 100000 } }
  calls := List.replicate n (.verify true "100023", .loading)

theorem sameCode_fresh (n : Nat) : (sameCode n).Fresh := by
  refine ⟨rfl, fun request phase member => ?_⟩
  cases List.eq_of_mem_replicate member
  rfl

/-- Each request runs before the other begins. -/
def inTurn : List TotpLabel :=
  List.replicate 4 (FleetLabel.advance 0) ++ .happen 3000700 :: List.replicate 4 (FleetLabel.advance 1)

/-- Each request reads the row before the other writes it. -/
def atOnce : List TotpLabel :=
  (List.replicate 3 [.advance 0, .advance 1]).flatten

theorem totp_codes_single_use_in_turn :
    (((totpMachine stepCodes).run (sameCode 2) inTurn).get
      (by decide +kernel)).world.accepted.Nodup ∧
    ∀ before after mid, inTurn = before ++ after →
      (totpMachine stepCodes).run (sameCode 2) before = some mid →
      (((totpMachine stepCodes).run (sameCode 2) inTurn).get
        (by decide +kernel)).world.user.secret.isSome = true →
      ∀ last ∈ mid.world.user.lastStep, ∃ last' ∈ (((totpMachine stepCodes).run (sameCode 2)
        inTurn).get (by decide +kernel)).world.user.lastStep, last ≤ last' :=
  totp_codes_single_use stepCodes (sameCode 2) _ inTurn (sameCode_fresh 2) (by decide +kernel)
    (Option.some_get _).symm

/-- Two requests at once spend one code twice. -/
theorem code_accepted_twice :
    ¬ ∀ (services : TotpServices) (s s' : TotpState) (labels : List TotpLabel), s.Fresh →
      (totpMachine services).run s labels = some s' → s'.world.accepted.Nodup := by
  intro claim
  have outcome : ((totpMachine stepCodes).run (sameCode 2) atOnce).any fun s' =>
      s'.world.user.secret.isSome && decide (s'.world.accepted = [100023, 100023]) := by
    decide +kernel
  obtain ⟨s', ran, facts⟩ := (Option.any_eq_true _ _).mp outcome
  simp only [Bool.and_eq_true, decide_eq_true_eq] at facts
  have distinct := claim stepCodes (sameCode 2) s' atOnce (sameCode_fresh 2) ran
  rw [facts.2] at distinct
  simp at distinct

end

end BurnLens.Backend
