import BurnLens.Backend.TeamRoles

/-! # Plan caps

A seat is counted when an invitation is made, and would be taken when it is accepted; a key is
counted in one statement and inserted in a later one.  What keeps the caps is that there is room
when a member or a key is inserted.
-/

namespace BurnLens.Backend

open Library

section

variable (services : TeamServices)

def WithinCaps (w : TeamWorld) : Prop :=
  ∀ workspaceId, (∀ n ∈ services.seatCount workspaceId, (w.seats workspaceId : Int) ≤ n) ∧
    ∀ n ∈ services.keyCap workspaceId, (w.keys workspaceId : Int) ≤ n

/-- Where a member is inserted there is a free seat, and where a key is inserted there are fewer
    than the cap. -/
def TeamPhase.HasRoom (w : TeamWorld) : TeamRequest → TeamPhase → Prop
  | .acceptInvitation _ _ memberId, .joining invitation userId =>
    w.memberTaken memberId invitation.workspaceId userId = false →
      ∀ n ∈ services.seatCount invitation.workspaceId,
        (w.seats invitation.workspaceId : Int) < n
  | .createApiKey _ keyId keyHash, .insertingKey token _ =>
    w.keyTaken keyId keyHash = false →
      ∀ n ∈ services.keyCap token.workspaceId, (w.keys token.workspaceId : Int) < n
  | _, _ => True

instance (w : TeamWorld) (request : TeamRequest) (phase : TeamPhase) :
    Decidable (phase.HasRoom services w request) := by
  unfold TeamPhase.HasRoom
  split <;> infer_instance

def insertsWithRoom : TeamState → TeamLabel → Prop :=
  Fleet.Meets (fun w request phase => phase.HasRoom services w request) fun _ _ => True

instance (s : TeamState) (l : TeamLabel) : Decidable (insertsWithRoom services s l) :=
  inferInstanceAs (Decidable (Fleet.Meets _ _ s l))

end

/-! ## Counts -/

section

variable {services : TeamServices} {s : TeamState} {w w' : TeamWorld} {request : TeamRequest}
  {phase next : TeamPhase} {workspaceId : Str}

theorem seats_updated {memberId : Str} {set : TeamMember → TeamMember}
    {members : List TeamMember}
    (removes : ∀ m, (set m).of workspaceId = true → m.of workspaceId = true) :
    (updated memberId set members).countP (TeamMember.of workspaceId) ≤
      members.countP (TeamMember.of workspaceId) := by
  rw [updated, List.countP_map]
  apply List.countP_mono_left
  intro m _ of
  simp only [Function.comp_apply] at of
  split at of
  · exact removes m of
  · exact of

theorem seats_joined {m : TeamMember} (active : m.active = true) :
    (w.members ++ [m]).countP (TeamMember.of workspaceId) =
      w.seats workspaceId + if m.workspaceId = workspaceId then 1 else 0 := by
  rw [List.countP_append, List.countP_singleton, TeamMember.of, active, Bool.and_true]
  simp only [decide_eq_true_eq]
  rfl

theorem MembersAfter.seats (after : MembersAfter w request phase w'.members)
    (room : phase.HasRoom services w request) {n : Int} (n_cap : n ∈ services.seatCount workspaceId)
    (within : (w.seats workspaceId : Int) ≤ n) : (w'.seats workspaceId : Int) ≤ n := by
  rw [TeamWorld.seats]
  generalize w'.members = members at after
  cases after with
  | same => exact within
  | removed =>
    refine le_trans (Int.ofNat_le.mpr (seats_updated fun m of => ?_)) within
    simp [TeamMember.of] at of
  | roleSet => exact le_trans (Int.ofNat_le.mpr (seats_updated fun _ => id)) within
  | joined free =>
    rw [seats_joined rfl]
    split
    · rename_i same
      subst same
      have below := room free n n_cap
      push_cast
      exact below
    · exact within

theorem KeysAfter.keys (after : KeysAfter w request phase w'.apiKeys)
    (room : phase.HasRoom services w request) {n : Int} (n_cap : n ∈ services.keyCap workspaceId)
    (within : (w.keys workspaceId : Int) ≤ n) : (w'.keys workspaceId : Int) ≤ n := by
  rw [TeamWorld.keys]
  generalize w'.apiKeys = apiKeys at after
  cases after with
  | same => exact within
  | revoked =>
    rw [List.countP_map]
    refine le_trans (Int.ofNat_le.mpr (List.countP_mono_left fun row _ counted => ?_)) within
    simp only [Function.comp_apply] at counted
    split at counted
    · simp at counted
    · exact counted
  | @created token _ _ _ _ free =>
    rw [List.countP_append, List.countP_singleton]
    simp only [Bool.not_false, Bool.and_true, decide_eq_true_eq]
    split
    · rename_i same
      subst same
      have below := room free n n_cap
      push_cast
      exact below
    · exact within

theorem WithinCaps.advance (within : WithinCaps services w)
    (room : phase.HasRoom services w request)
    (went : w.advance services request phase = some (w', next)) : WithinCaps services w' :=
  fun workspaceId =>
    ⟨fun _ cap => (advance_members went).seats room cap ((within workspaceId).1 _ cap),
      fun _ cap => (advance_apiKeys went).keys room cap ((within workspaceId).2 _ cap)⟩

theorem hasRoom_of_withinCaps
    (kept : ∀ w' next, w.advance services request phase = some (w', next) →
      WithinCaps services w') : phase.HasRoom services w request := by
  unfold TeamPhase.HasRoom
  split
  · rename_i inviteToken bearer memberId invitation userId
    intro free n cap
    have within := (kept _ _ (by simp only [TeamWorld.advance, free]; rfl)
      invitation.workspaceId).1 n cap
    rw [TeamWorld.seats, seats_joined rfl, if_pos rfl] at within
    push_cast at within
    omega
  · rename_i token' keyId keyHash token count
    intro free n cap
    have within := (kept _ _ (by simp only [TeamWorld.advance, free]; rfl)
      token.workspaceId).2 n cap
    rw [TeamWorld.keys, List.countP_append, List.countP_singleton] at within
    simp only [decide_true, Bool.not_false, Bool.and_true, if_true] at within
    push_cast at within
    rw [TeamWorld.keys]
    omega
  · trivial

theorem insertsWithRoom_iff (s : TeamState) (l : TeamLabel) (within : WithinCaps services s.world) :
    insertsWithRoom services s l ↔
      ∀ s', (teamMachine services).step s l = some s' → WithinCaps services s'.world := by
  cases l with
  | advance k =>
    constructor
    · intro room s' stepped
      obtain ⟨request, phase, w, next, found, went, rfl⟩ := advance_cases stepped
      exact within.advance (room (request, phase) found) went
    · intro kept (request, phase) found
      apply hasRoom_of_withinCaps
      intro w' next went
      apply kept ⟨w', s.calls.set k (request, next)⟩
      show Fleet.step (teamRoutes services) s (.advance k) = _
      simp only [Fleet.step, Option.mem_def.mp found, Option.bind_some, teamRoutes]
      rw [went]
      rfl
  | happen time =>
    refine ⟨fun _ s' stepped => ?_, fun _ => trivial⟩
    rw [happen_cases stepped]
    exact within

def cappedServices : TeamServices :=
  { openServices with limits := fun _ => some { seatCount := some 4, apiKeyCount := some 1 } }

/-- Two keys to be created where one may be, and the first to be revoked. -/
def growingTeam : TeamState :=
  team [.createApiKey administrator "k1" "hash1", .createApiKey administrator "k2" "hash2",
    .revokeApiKey administrator "k1", .inviteMember administrator "h4" "viewer" "i4" "t4"]

def requestInTurn (k steps : Nat) : List TeamLabel := List.replicate steps (.advance k)

/-- The second key takes the place of the first. -/
def replacedKey : List TeamLabel :=
  requestInTurn 0 2 ++ requestInTurn 3 4 ++ requestInTurn 2 1 ++ requestInTurn 1 2

theorem growingTeam_within : WithinCaps cappedServices growingTeam.world := by
  intro workspaceId
  constructor
  · intro n cap
    cases cap
    have few : growingTeam.world.seats workspaceId ≤ 3 := List.countP_le_length
    omega
  · intro n cap
    cases cap
    exact Int.one_nonneg

end

end BurnLens.Backend
