import BurnLens.Backend.Team
import Mathlib.Data.List.Nodup

/-! # Roles in a team

Members are changed by administrators, who may also give and take the role of an owner, and an
invitation gives at most theirs.  A request that demotes an owner counts the owners first; where
it updates the member as it was read, an owner remains.
-/

namespace BurnLens.Backend

open Library

/-! ## Changes -/

/-- No role above the requester's own is given, and no member of a higher role is demoted or
    removed. -/
def TeamChange.WithinOwnRole : TeamChange → Prop
  | .roleChanged _ own before after => ∀ role ∈ own, roleRank after ≤ roleRank role ∧
      (roleRank after < roleRank before → roleRank before ≤ roleRank role)
  | .removed _ own role | .invited _ own role => ∀ r ∈ own, roleRank role ≤ roleRank r
  | .joined _ => True

/-- An administrator's session changes members and invites, up to its own role at most; who joins
    by an invitation is at most an administrator. -/
def TeamChange.Gated : TeamChange → Prop
  | .roleChanged token _ _ _ | .removed token _ _ => token.isAdmin = true
  | .invited token _ role =>
    token.isAdmin = true ∧ role ∈ invitedRoles ∧ roleRank role ≤ roleRank token.role
  | .joined role => role ∈ invitedRoles

instance (change : TeamChange) : Decidable change.WithinOwnRole := by
  unfold TeamChange.WithinOwnRole
  split <;> infer_instance

def TeamPhase.Gated (request : TeamRequest) : TeamPhase → Prop
  | .counting token _ _ | .updating token _ _ _ | .checkingEmail token | .countingSeats token =>
    token.isAdmin = true
  | .inviting token => token.isAdmin = true ∧
      ∀ token' email role id inviteToken, request = .inviteMember token' email role id inviteToken →
        role ∈ invitedRoles
  | .matching invitation _ | .findingMember invitation _ | .joining invitation _
  | .accepting invitation => invitation.role ∈ invitedRoles
  | .entering | .insertingKey _ _ | .ended _ => True

structure GateInvariant (s : TeamState) : Prop where
  log : ∀ change ∈ s.world.log, change.Gated
  invitations : ∀ invitation ∈ s.world.invitations, invitation.role ∈ invitedRoles
  calls : s.Each fun _ request => TeamPhase.Gated request

section

variable {services : TeamServices} {s : TeamState} {w w' : TeamWorld} {k : Nat}
  {request : TeamRequest} {phase next : TeamPhase}

theorem isAdmin_of_gate {token : TokenPayload} (passed : services.gate token = none) :
    token.isAdmin = true := by
  simp only [TeamServices.gate] at passed
  split at passed
  · cases passed
  · split at passed
    · cases passed
    · rename_i admin
      simpa using admin

/-- An invitation is no higher than the session of an administrator. -/
theorem invited_le {token : TokenPayload} {role : Str} (admin : token.isAdmin = true)
    (invited : role ∈ invitedRoles) : roleRank role ≤ roleRank token.role := by
  have least : roleRank role ≤ roleRank "admin" := by
    simp only [invitedRoles, List.mem_cons, List.not_mem_nil, or_false] at invited
    obtain rfl | rfl := invited <;> decide
  exact least.trans (of_decide_eq_true admin)

theorem enter_gated (invitations : ∀ invitation ∈ w.invitations, invitation.role ∈ invitedRoles) :
    (w.enter services request).2.Gated request := by
  cases request with
  | removeMember token memberId =>
    simp only [TeamWorld.enter]
    split
    · trivial
    · trivial
    · rename_i passed _
      split <;> exact isAdmin_of_gate passed
  | updateMemberRole token memberId role =>
    simp only [TeamWorld.enter]
    split
    · trivial
    · rename_i passed
      split
      · trivial
      · split
        · trivial
        · split <;> exact isAdmin_of_gate passed
  | inviteMember token email role invitationId inviteToken =>
    simp only [TeamWorld.enter]
    split
    · trivial
    · rename_i passed
      split
      · exact isAdmin_of_gate passed
      · trivial
  | acceptInvitation inviteToken bearer memberId =>
    simp only [TeamWorld.enter]
    split
    · trivial
    · rename_i invitation found
      have invited := invitations invitation (List.mem_of_find?_eq_some found)
      repeat' split
      all_goals first | exact invited | trivial
  | createApiKey token keyId keyHash =>
    simp only [TeamWorld.enter]
    repeat' split
    all_goals trivial
  | revokeApiKey => trivial

theorem enter_kept : (w.enter services request).1.log = w.log ∧
    (w.enter services request).1.invitations = w.invitations := by
  cases request <;> exact ⟨rfl, rfl⟩

theorem updateMember_gated {memberId : Str} {set : TeamMember → TeamMember}
    {change : TeamMember → TeamChange} (log : ∀ change ∈ w.log, change.Gated)
    (own : ∀ m, (change m).Gated) :
    ∀ c ∈ (w.updateMember memberId set change).log, c.Gated := by
  intro c logged
  obtain new | old := List.mem_append.mp logged
  · obtain ⟨m, _, rfl⟩ := Option.map_eq_some_iff.mp (Option.mem_toList.mp new)
    exact own m
  · exact log c old

theorem advance_gated (log : ∀ change ∈ w.log, change.Gated)
    (invitations : ∀ invitation ∈ w.invitations, invitation.role ∈ invitedRoles)
    (known : phase.Gated request)
    (went : w.advance services request phase = some (w', next)) :
    (∀ change ∈ w'.log, change.Gated) ∧
      (∀ invitation ∈ w'.invitations, invitation.role ∈ invitedRoles) ∧ next.Gated request := by
  cases phase with
  | entering =>
    have entered := @enter_gated services w request invitations
    obtain ⟨sameLog, same⟩ := @enter_kept services w request
    rw [show w.enter services request = (w', next) from Option.some.inj went] at entered sameLog same
    rw [sameLog, same]
    exact ⟨log, invitations, entered⟩
  | counting token memberId role =>
    cases went
    refine ⟨log, invitations, ?_⟩
    split
    · trivial
    · exact known
  | updating token memberId role owners =>
    cases request with
    | removeMember =>
      cases went
      exact ⟨updateMember_gated log fun _ => known, invitations, trivial⟩
    | updateMemberRole =>
      cases went
      exact ⟨updateMember_gated log fun _ => known, invitations, trivial⟩
    | _ => cases went
  | checkingEmail token =>
    cases request with
    | inviteMember =>
      cases went
      refine ⟨log, invitations, ?_⟩
      split
      · trivial
      · exact known
    | _ => cases went
  | countingSeats token =>
    cases request with
    | inviteMember token' email role invitationId inviteToken =>
      cases went
      refine ⟨log, invitations, ?_⟩
      split
      · trivial
      · split
        · trivial
        · rename_i invited
          refine ⟨known, fun _ _ _ _ _ same => ?_⟩
          cases same
          exact not_not.mp invited
    | _ => cases went
  | inviting token =>
    cases request with
    | inviteMember token' email role invitationId inviteToken =>
      have invited := known.2 _ _ _ _ _ rfl
      simp only [TeamWorld.advance] at went
      split at went
      · cases went
        exact ⟨log, invitations, trivial⟩
      · cases went
        refine ⟨fun change logged => ?_, fun invitation stored => ?_, trivial⟩
        · obtain rfl | old := List.mem_cons.mp logged
          · exact ⟨known.1, invited, invited_le known.1 invited⟩
          · exact log change old
        · obtain old | new := List.mem_append.mp stored
          · exact invitations invitation old
          · rw [List.mem_singleton.mp new]
            exact invited
    | _ => cases went
  | matching invitation userId =>
    cases went
    refine ⟨log, invitations, ?_⟩
    split
    · trivial
    · split
      · trivial
      · exact known
  | findingMember invitation userId =>
    cases went
    refine ⟨log, invitations, ?_⟩
    split <;> exact known
  | joining invitation userId =>
    cases request with
    | acceptInvitation inviteToken bearer memberId =>
      simp only [TeamWorld.advance] at went
      split at went
      · cases went
        exact ⟨log, invitations, trivial⟩
      · cases went
        refine ⟨fun change logged => ?_, invitations, known⟩
        obtain rfl | old := List.mem_cons.mp logged
        · exact known
        · exact log change old
    | _ => cases went
  | accepting invitation =>
    cases went
    refine ⟨log, fun i stored => ?_, trivial⟩
    obtain ⟨old, there, rfl⟩ := List.mem_map.mp stored
    split <;> exact invitations old there
  | insertingKey token count =>
    cases request with
    | createApiKey =>
      simp only [TeamWorld.advance] at went
      split at went <;> cases went <;> exact ⟨log, invitations, trivial⟩
    | _ => cases went
  | ended reply => cases went

theorem gateInvariant_step (s : TeamState) (l : TeamLabel) (s' : TeamState)
    (invariant : GateInvariant s) (stepped : (teamMachine services).step s l = some s') :
    GateInvariant s' := by
  cases l with
  | advance k =>
    obtain ⟨request, phase, w, next, found, went, rfl⟩ := advance_cases stepped
    obtain ⟨log, invitations, own⟩ := advance_gated invariant.log invariant.invitations
      (invariant.calls.at found) went
    exact ⟨log, invitations, .set own fun _ _ _ _ there => invariant.calls.at there⟩
  | happen time =>
    rw [happen_cases stepped]
    exact ⟨invariant.log, invariant.invitations, invariant.calls⟩

/-! ## Owners -/

/-- The request takes the role of an owner from a member who has it. -/
def TeamRequest.demotes : TeamRequest → Bool
  | .updateMemberRole _ _ role => role ≠ ("owner" : Str)
  | _ => true

/-- The member has the role, and the workspace the number of owners, that the request has read. -/
def TeamPhase.UpToDate (w : TeamWorld) : TeamPhase → Prop
  | .updating token memberId role owners =>
    (∀ m ∈ w.members, m.id = memberId → m.role = role) ∧
      ∀ n ∈ owners, w.owners token.workspaceId = n
  | _ => True

instance (w : TeamWorld) : (phase : TeamPhase) → Decidable (phase.UpToDate w)
  | .updating token memberId role owners => inferInstanceAs (Decidable
      ((∀ m ∈ w.members, m.id = memberId → m.role = role) ∧
        ∀ n ∈ owners, w.owners token.workspaceId = n))
  | .entering | .counting _ _ _ | .checkingEmail _ | .countingSeats _ | .inviting _
  | .matching _ _ | .findingMember _ _ | .joining _ _ | .accepting _ | .insertingKey _ _
  | .ended _ => inferInstanceAs (Decidable True)

/-- A request updates a member only as it has read it. -/
def updatesAsRead : TeamState → TeamLabel → Prop :=
  Fleet.Meets (fun w _ phase => phase.UpToDate w) fun _ _ => True

instance (s : TeamState) (l : TeamLabel) : Decidable (updatesAsRead s l) :=
  inferInstanceAs (Decidable (Fleet.Meets _ _ s l))

/-- What is known of a request: the member that it names is one of the workspace, and an owner is
    demoted only where there are two. -/
def TeamPhase.Read (w : TeamWorld) (request : TeamRequest) : TeamPhase → Prop
  | .counting token memberId _ => ∃ m ∈ w.members, m.id = memberId ∧ m.workspaceId = token.workspaceId
  | .updating token memberId role owners =>
    (∃ m ∈ w.members, m.id = memberId ∧ m.workspaceId = token.workspaceId) ∧
      (request.demotes = true → role = ("owner" : Str) → ∃ n ∈ owners, 2 ≤ n)
  | _ => True

structure OwnerInvariant (workspaceId : Str) (s : TeamState) : Prop where
  ids : (s.world.members.map TeamMember.id).Nodup
  owned : 0 < s.world.owners workspaceId
  calls : s.Each TeamPhase.Read

section

variable {workspaceId memberId : Str} {members : List TeamMember} {set : TeamMember → TeamMember}

theorem exists_other {α β : Type} [DecidableEq β] {f : α → β} {p : α → Bool} {l : List α}
    (distinct : (l.map f).Nodup) (two : 2 ≤ l.countP p) (b : β) :
    ∃ a ∈ l, p a = true ∧ f a ≠ b := by
  by_contra none
  have all : (l.filter p).map f = List.replicate (l.filter p).length b := by
    rw [List.eq_replicate_iff]
    refine ⟨List.length_map .., fun c member => ?_⟩
    obtain ⟨a, there, rfl⟩ := List.mem_map.mp member
    obtain ⟨stored, passes⟩ := List.mem_filter.mp there
    by_contra other
    exact none ⟨a, stored, passes, other⟩
  have single : ((l.filter p).map f).Nodup := distinct.sublist (List.filter_sublist.map f)
  rw [all, List.nodup_replicate, ← List.countP_eq_length_filter] at single
  omega

theorem map_updated {β : Type} {f : TeamMember → β} (keeps : ∀ m, f (set m) = f m) :
    (updated memberId set members).map f = members.map f := by
  rw [updated, List.map_map]
  apply List.map_congr_left
  intro m _
  simp only [Function.comp_apply]
  split
  · exact keeps m
  · rfl

theorem mem_updated {m : TeamMember} (member : m ∈ members) (other : m.id ≠ memberId) :
    m ∈ updated memberId set members :=
  List.mem_map.mpr ⟨m, member, if_neg other⟩

theorem named_updated (id : ∀ m, (set m).id = m.id)
    (workspace : ∀ m, (set m).workspaceId = m.workspaceId) {named : Str}
    (exists_ : ∃ m ∈ members, m.id = named ∧ m.workspaceId = workspaceId) :
    ∃ m ∈ updated memberId set members, m.id = named ∧ m.workspaceId = workspaceId := by
  obtain ⟨m, member, its, where_⟩ := exists_
  refine ⟨_, List.mem_map.mpr ⟨m, member, rfl⟩, ?_⟩
  split
  · exact ⟨(id m).trans its, (workspace m).trans where_⟩
  · exact ⟨its, where_⟩

theorem owners_pos {w : TeamWorld} : 0 < w.owners workspaceId ↔
    ∃ m ∈ w.members, m.of workspaceId = true ∧ m.role = ("owner" : Str) := by
  rw [TeamWorld.owners, List.countP_pos_iff]
  simp only [Bool.and_eq_true, decide_eq_true_eq]

end

theorem MembersAfter.ids (after : MembersAfter w request phase w'.members)
    (ids : (w.members.map TeamMember.id).Nodup) : (w'.members.map TeamMember.id).Nodup := by
  generalize w'.members = members at after
  cases after with
  | same => exact ids
  | removed | roleSet =>
    rw [map_updated]
    · exact ids
    · exact fun _ => rfl
  | joined free =>
    rw [List.map_append, List.nodup_append]
    refine ⟨ids, List.nodup_singleton _, fun id there id' own same => ?_⟩
    obtain ⟨m, member, rfl⟩ := List.mem_map.mp there
    simp only [List.map_cons, List.map_nil, List.mem_singleton] at own
    have taken := List.any_eq_false.mp free m member
    simp [same, own] at taken

theorem MembersAfter.named (after : MembersAfter w request phase w'.members) {named workspaceId : Str}
    (exists_ : ∃ m ∈ w.members, m.id = named ∧ m.workspaceId = workspaceId) :
    ∃ m ∈ w'.members, m.id = named ∧ m.workspaceId = workspaceId := by
  generalize w'.members = members at after
  cases after with
  | same => exact exists_
  | removed | roleSet => refine named_updated ?_ ?_ exists_ <;> exact fun _ => rfl
  | joined =>
    obtain ⟨m, member, its⟩ := exists_
    exact ⟨m, List.mem_append_left _ member, its⟩

theorem owned_updated {workspaceId memberId role : Str} {token : TokenPayload}
    {owners : Option Nat} {set : TeamMember → TeamMember}
    (ids : (w.members.map TeamMember.id).Nodup) (owned : 0 < w.owners workspaceId)
    (known : (TeamPhase.updating token memberId role owners).Read w request)
    (upToDate : (TeamPhase.updating token memberId role owners).UpToDate w)
    (members : w'.members = updated memberId set w.members)
    (keeps : request.demotes = false → ∀ m, m.of workspaceId = true →
      (set m).of workspaceId = true ∧ (set m).role = ("owner" : Str)) :
    0 < w'.owners workspaceId := by
  rw [owners_pos, members]
  obtain ⟨m, member, of, owner⟩ := owners_pos.mp owned
  by_cases other : m.id = memberId
  · cases demotes : request.demotes with
    | false =>
      obtain ⟨kept, role⟩ := keeps demotes m of
      exact ⟨_, List.mem_map.mpr ⟨m, member, if_pos other⟩, kept, role⟩
    | true =>
      -- the member is an owner of this workspace, and was read as one
      obtain ⟨⟨named, there, its, where_⟩, two⟩ := known
      obtain rfl := List.inj_on_of_nodup_map ids member there (other.trans its.symm)
      obtain ⟨n, counted, two⟩ := two demotes ((upToDate.1 m member other).symm.trans owner)
      have same : workspaceId = token.workspaceId := by
        simp only [TeamMember.of, Bool.and_eq_true, decide_eq_true_eq] at of
        exact of.1.symm.trans where_
      have enough : 2 ≤ w.owners workspaceId := by
        rw [same, upToDate.2 n counted]
        exact two
      obtain ⟨m', member', isOwner, apart⟩ := exists_other ids enough memberId
      simp only [Bool.and_eq_true, decide_eq_true_eq] at isOwner
      exact ⟨m', mem_updated member' apart, isOwner⟩
  · exact ⟨m, mem_updated member other, of, owner⟩

theorem MembersAfter.owned {workspaceId : Str} (after : MembersAfter w request phase w'.members)
    (ids : (w.members.map TeamMember.id).Nodup) (owned : 0 < w.owners workspaceId)
    (known : phase.Read w request) (upToDate : phase.UpToDate w) :
    0 < w'.owners workspaceId := by
  generalize members : w'.members = members' at after
  cases after with
  | same =>
    rw [owners_pos, members]
    exact owners_pos.mp owned
  | removed => exact owned_updated ids owned known upToDate members fun kept => by cases kept
  | roleSet =>
    refine owned_updated ids owned known upToDate members fun kept m of => ⟨of, ?_⟩
    exact of_not_not (of_decide_eq_false kept)
  | joined =>
    obtain ⟨m, member, its⟩ := owners_pos.mp owned
    rw [owners_pos, members]
    exact ⟨m, List.mem_append_left _ member, its⟩

theorem TeamPhase.Read.other (known : phase.Read w request)
    (named : ∀ memberId workspaceId, (∃ m ∈ w.members, m.id = memberId ∧ m.workspaceId = workspaceId) →
      ∃ m ∈ w'.members, m.id = memberId ∧ m.workspaceId = workspaceId) :
    phase.Read w' request := by
  cases phase with
  | counting => exact named _ _ known
  | updating => exact ⟨named _ _ known.1, known.2⟩
  | _ => trivial

theorem member_some {workspaceId memberId : Str} {m : TeamMember}
    (found : w.member workspaceId memberId = some m) :
    ∃ m ∈ w.members, m.id = memberId ∧ m.workspaceId = workspaceId := by
  have named := List.find?_some found
  simp only [TeamMember.of, Bool.and_eq_true, decide_eq_true_eq] at named
  exact ⟨m, List.mem_of_find?_eq_some found, named.1, named.2.1⟩

theorem enter_read : (w.enter services request).2.Read w request := by
  cases request with
  | removeMember token memberId =>
    simp only [TeamWorld.enter]
    split
    · trivial
    · trivial
    · rename_i m _ found
      split
      · exact member_some found
      · rename_i other
        exact ⟨member_some found, fun _ owner => absurd owner other⟩
  | updateMemberRole token memberId role =>
    simp only [TeamWorld.enter]
    split
    · trivial
    · split
      · trivial
      · split
        · trivial
        · rename_i m found
          split
          · exact member_some found
          · rename_i kept
            refine ⟨member_some found, fun demotes owner => absurd ⟨owner, ?_⟩ kept⟩
            exact of_decide_eq_true demotes
  | inviteMember | acceptInvitation | createApiKey =>
    simp only [TeamWorld.enter]
    repeat' split
    all_goals trivial
  | revokeApiKey => trivial

theorem advance_read (known : phase.Read w request)
    (went : w.advance services request phase = some (w', next)) : next.Read w request := by
  cases phase with
  | entering =>
    have entered := @enter_read services w request
    rwa [show w.enter services request = (w', next) from Option.some.inj went] at entered
  | counting token memberId role =>
    cases went
    split
    · trivial
    · rename_i several
      exact ⟨known, fun _ _ => ⟨_, rfl, by omega⟩⟩
  | updating => cases request <;> cases went <;> trivial
  | matching | findingMember | accepting =>
    cases went
    repeat' split
    all_goals trivial
  | checkingEmail | countingSeats =>
    cases request with
    | inviteMember =>
      cases went
      repeat' split
      all_goals trivial
    | _ => cases went
  | inviting =>
    cases request with
    | inviteMember =>
      simp only [TeamWorld.advance] at went
      split at went <;> cases went <;> trivial
    | _ => cases went
  | joining =>
    cases request with
    | acceptInvitation =>
      simp only [TeamWorld.advance] at went
      split at went <;> cases went <;> trivial
    | _ => cases went
  | insertingKey =>
    cases request with
    | createApiKey =>
      simp only [TeamWorld.advance] at went
      split at went <;> cases went <;> trivial
    | _ => cases went
  | ended reply => cases went

theorem ownerInvariant_preserved {workspaceId : Str} :
    (teamMachine services).Preserves updatesAsRead (OwnerInvariant workspaceId) := by
  apply Routes.preserves
  · intro s k request phase w next invariant found upToDate went
    have known := invariant.calls.at found
    have after := advance_members went
    refine ⟨after.ids invariant.ids, after.owned invariant.ids invariant.owned known upToDate,
      .set ?_ fun j other phase' _ there => ?_⟩
    · exact (advance_read known went).other fun _ _ => after.named
    · exact (invariant.calls.at there).other fun _ _ => after.named
  · intro s time invariant _
    exact ⟨invariant.ids, invariant.owned, invariant.calls⟩

/-- Members with ids of their own, invitations as they are made, and requests that have not
    begun. -/
structure TeamState.Fresh (s : TeamState) : Prop where
  ids : (s.world.members.map TeamMember.id).Nodup
  invitations : ∀ invitation ∈ s.world.invitations, invitation.role ∈ invitedRoles
  log : s.world.log = []
  entering : ∀ request phase, (request, phase) ∈ s.calls → phase = .entering

theorem GateInvariant.fresh (fresh : s.Fresh) : GateInvariant s := by
  refine ⟨?_, fresh.invitations, fun request phase member => ?_⟩
  · simp [fresh.log]
  · cases fresh.entering request phase member
    trivial

theorem OwnerInvariant.fresh {workspaceId : Str} (fresh : s.Fresh)
    (owned : 0 < s.world.owners workspaceId) : OwnerInvariant workspaceId s := by
  refine ⟨fresh.ids, owned, fun request phase member => ?_⟩
  cases fresh.entering request phase member
  trivial

/-- Who changes a team, and its owners: in every run, members are changed and invited by the
    sessions of administrators only, an invitation gives at most the role of an administrator and
    none above that of the session, and where members are updated as they were read, a workspace
    that has an owner keeps one. -/
theorem team_roles_hold (services : TeamServices) (s s' : TeamState) (labels : List TeamLabel)
    (fresh : s.Fresh) (ran : (teamMachine services).run s labels = some s') :
    (∀ change ∈ s'.world.log, change.Gated) ∧
      ((teamMachine services).Guarded updatesAsRead s labels →
        ∀ workspaceId, 0 < s.world.owners workspaceId → 0 < s'.world.owners workspaceId) := by
  constructor
  · exact (Machine.run_invariant _ gateInvariant_step (.fresh fresh) ran).log
  · intro asRead workspaceId owned
    exact (ownerInvariant_preserved.run _ (.fresh fresh owned) asRead ran).owned

/-! ## An administrator -/

/-- A team of an owner, an administrator and a viewer, and what the administrator asks for. -/
def team (requests : List TeamRequest) : TeamState where
  world := {
    now := 0
    workspaces := ["w"]
    users := [⟨"u1", "h1"⟩, ⟨"u2", "h2"⟩, ⟨"u3", "h3"⟩]
    members := [⟨"m1", "w", "u1", "owner", true⟩, ⟨"m2", "w", "u2", "admin", true⟩,
      ⟨"m3", "w", "u3", "viewer", true⟩] }
  calls := requests.map fun request => (request, .entering)

theorem team_fresh (requests : List TeamRequest) : (team requests).Fresh := by
  refine ⟨?_, by simp [team], rfl, fun request phase member => ?_⟩
  · show (["m1", "m2", "m3"] : List Str).Nodup
    decide
  obtain ⟨_, _, same⟩ := List.mem_map.mp member
  cases same
  rfl

def openServices : TeamServices where
  limits _ := some {}
  lookupHash := id
  hashInvitationToken := id
  decodeJwt := some
  invitationExpiry := 48 * 3600

def administrator : TokenPayload := ⟨"w", "u2", "admin"⟩

/-- The administrator becomes an owner, and removes the first one. -/
def takeover : TeamState :=
  team [.updateMemberRole administrator "m2" "owner", .removeMember administrator "m1"]

def takeoverLabels : List TeamLabel :=
  [.advance 0, .advance 0, .advance 1, .advance 1, .advance 1]

theorem team_roles_hold_takeover :
    (∀ change ∈ (((teamMachine openServices).run takeover takeoverLabels).get
      (by decide +kernel)).world.log, change.Gated) ∧
      0 < (((teamMachine openServices).run takeover takeoverLabels).get
        (by decide +kernel)).world.owners "w" := by
  obtain ⟨gated, owned⟩ := team_roles_hold openServices takeover _ takeoverLabels (team_fresh _)
    (Option.some_get _).symm
  exact ⟨gated, owned (by decide +kernel) "w" (by decide +kernel)⟩

/-- An administrator gives the role of an owner. -/
theorem administrator_makes_owner :
    ¬ ∀ (services : TeamServices) (s s' : TeamState) (labels : List TeamLabel), s.Fresh →
      (∀ workspaceId, workspaceId ∈ s.world.workspaces → 0 < s.world.owners workspaceId) →
      (teamMachine services).run s labels = some s' →
      (∀ workspaceId, workspaceId ∈ s.world.workspaces → 0 < s'.world.owners workspaceId) ∧
        ∀ change ∈ s'.world.log, change.WithinOwnRole := by
  intro claim
  have outcome : ((teamMachine openServices).run takeover takeoverLabels).any fun s' =>
      decide (¬ ∀ change ∈ s'.world.log, change.WithinOwnRole) := by
    decide +kernel
  obtain ⟨s', ran, violated⟩ := (Option.any_eq_true _ _).mp outcome
  refine of_decide_eq_true violated (claim openServices takeover s' takeoverLabels (team_fresh _)
    ?_ ran).2
  decide +kernel

end

end BurnLens.Backend
