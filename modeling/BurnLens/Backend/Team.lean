import BurnLens.Backend.ApiKeys

/-! # Teams and their plan caps

The requests that change the members, the invitations and the keys of a workspace, cut into their
statements; the plan limits are fixed.  What a request checks before its first statement it
checks at once with it.  The log says what was changed and by whom, the newest first.
-/

namespace BurnLens.Backend

open Library

/-! ## Tables -/

/-- A row of `workspace_members`. -/
structure TeamMember where
  id : Str
  workspaceId : Str
  userId : Str
  role : Str
  active : Bool := true
deriving DecidableEq

inductive Datetime where
  | naive (time : ℚ)
  | aware (time : ℚ)

/-- `<` of two datetimes, or none for the `TypeError` about a naive one and an aware one. -/
def Datetime.lt : Datetime → Datetime → Option Bool
  | .naive a, .naive b | .aware a, .aware b => some (a < b)
  | _, _ => none

structure Invitation where
  id : Str
  workspaceId : Str
  email : Str
  role : Str
  tokenHash : Str
  -- a TIMESTAMPTZ column, which is read as an aware datetime
  expiresAt : ℚ
  -- `accepted_at` is set
  accepted : Bool := false
deriving DecidableEq

structure TeamUser where
  id : Str
  emailHash : Str
deriving DecidableEq

/-- What was changed, by whom, and with which role of their own at that time. -/
inductive TeamChange where
  | roleChanged (token : TokenPayload) (own : Option Str) (before after : Str)
  | removed (token : TokenPayload) (own : Option Str) (role : Str)
  | invited (token : TokenPayload) (own : Option Str) (role : Str)
  | joined (role : Str)
deriving DecidableEq

structure TeamWorld where
  now : ℚ
  workspaces : List Str
  users : List TeamUser
  members : List TeamMember
  invitations : List Invitation := []
  apiKeys : List ApiKeyRow := []
  log : List TeamChange := []

def TeamMember.of (workspaceId : Str) (m : TeamMember) : Bool :=
  m.workspaceId = workspaceId && m.active

def TeamWorld.seats (w : TeamWorld) (workspaceId : Str) : Nat :=
  w.members.countP (TeamMember.of workspaceId)

def TeamWorld.owners (w : TeamWorld) (workspaceId : Str) : Nat :=
  w.members.countP fun m => m.of workspaceId && m.role = ("owner" : Str)

/-- The keys of the workspace that are not revoked. -/
def TeamWorld.keys (w : TeamWorld) (workspaceId : Str) : Nat :=
  w.apiKeys.countP fun row => row.workspaceId = workspaceId && !row.revoked

def TeamWorld.roleOf (w : TeamWorld) (workspaceId userId : Str) : Option Str :=
  (w.members.find? fun m => m.of workspaceId && m.userId = userId).map TeamMember.role

/-- The id, or the membership, is there already. -/
def TeamWorld.memberTaken (w : TeamWorld) (memberId workspaceId userId : Str) : Bool :=
  w.members.any fun m => m.id = memberId || (m.of workspaceId && m.userId = userId)

def TeamWorld.keyTaken (w : TeamWorld) (keyId keyHash : Str) : Bool :=
  w.apiKeys.any fun row => row.id = keyId || row.keyHash = keyHash

def roleHierarchy : List (Str × Int) := [("viewer", 0), ("admin", 1), ("owner", 2)]

def roleRank (role : Str) : Int := (roleHierarchy.lookup role).getD (-1)

/-- `require_role("admin", token)`. -/
def TokenPayload.isAdmin (token : TokenPayload) : Bool := roleRank "admin" ≤ roleRank token.role

def invitedRoles : List Str := ["viewer", "admin"]

def memberRoles : List Str := ["viewer", "admin", "owner"]

/-- What the requests read of `resolve_limits`. -/
structure TeamLimits where
  seatCount : Option Int := none
  apiKeyCount : Option Int := none
  teamsView : Bool := true

structure TeamServices where
  -- of every workspace
  limits : Str → Option TeamLimits
  lookupHash : Str → Str
  hashInvitationToken : Str → Str
  -- the user of a valid JWT
  decodeJwt : Str → Option Str
  invitationExpiry : ℚ

section

variable (services : TeamServices)

def TeamServices.teamsView (workspaceId : Str) : Bool :=
  (services.limits workspaceId).any TeamLimits.teamsView

def TeamServices.seatCount (workspaceId : Str) : Option Int :=
  (services.limits workspaceId).bind TeamLimits.seatCount

/-- `get_seat_limit`. -/
def TeamServices.seatLimit (workspaceId : Str) : Int :=
  (services.seatCount workspaceId).getD (10 ^ 9)

def TeamServices.keyCap (workspaceId : Str) : Option Int :=
  (services.limits workspaceId).bind TeamLimits.apiKeyCount

end

/-! ## Requests -/

structure TeamReply where
  status : Nat
  detail : Str := []
deriving DecidableEq

/-- The requests, with the ids and tokens that they generate. -/
inductive TeamRequest where
  | removeMember (token : TokenPayload) (memberId : Str)
  | updateMemberRole (token : TokenPayload) (memberId role : Str)
  | inviteMember (token : TokenPayload) (email role invitationId inviteToken : Str)
  -- with the bearer token, if there is one
  | acceptInvitation (inviteToken : Str) (bearer : Option Str) (memberId : Str)
  | createApiKey (token : TokenPayload) (keyId keyHash : Str)
  | revokeApiKey (token : TokenPayload) (keyId : Str)

inductive TeamPhase where
  | entering
  -- the owners are counted, where the member is one
  | counting (token : TokenPayload) (memberId role : Str)
  | updating (token : TokenPayload) (memberId role : Str) (owners : Option Nat)
  | checkingEmail (token : TokenPayload)
  | countingSeats (token : TokenPayload)
  | inviting (token : TokenPayload)
  | matching (invitation : Invitation) (userId : Str)
  | findingMember (invitation : Invitation) (userId : Str)
  | joining (invitation : Invitation) (userId : Str)
  | accepting (invitation : Invitation)
  | insertingKey (token : TokenPayload) (count : Nat)
  | ended (reply : TeamReply)

def insufficientRole : TeamReply := ⟨403, "insufficient_role"⟩

/-- What an exception that nothing catches is answered with. -/
def unhandledError : TeamReply := ⟨500, []⟩

def featureNotInPlan : TeamReply := ⟨402, "feature_not_in_plan"⟩

section

variable (services : TeamServices)

/-- What stands before a team route of administrators. -/
def TeamServices.gate (token : TokenPayload) : Option TeamReply :=
  if !services.teamsView token.workspaceId then some featureNotInPlan
  else if !token.isAdmin then some insufficientRole
  else none

/-- An active member of the workspace, by id. -/
def TeamWorld.member (w : TeamWorld) (workspaceId memberId : Str) : Option TeamMember :=
  w.members.find? fun m => m.id = memberId && m.of workspaceId

def TeamWorld.enter (w : TeamWorld) : TeamRequest → TeamWorld × TeamPhase
  | .removeMember token memberId =>
    (w, match services.gate token, w.member token.workspaceId memberId with
      | some reply, _ => .ended reply
      | none, none => .ended ⟨404, "Member not found"⟩
      | none, some m =>
        if m.role = ("owner" : Str) then .counting token memberId m.role
        else .updating token memberId m.role none)
  | .updateMemberRole token memberId role =>
    (w, match services.gate token, w.member token.workspaceId memberId with
      | some reply, _ => .ended reply
      | none, found =>
        if role ∉ memberRoles then .ended ⟨400, "Invalid role"⟩
        else
          match found with
          | none => .ended ⟨404, "Member not found"⟩
          | some m =>
            if m.role = ("owner" : Str) ∧ role ≠ ("owner" : Str) then
              .counting token memberId m.role
            else .updating token memberId m.role none)
  | .inviteMember token _ _ _ _ =>
    (w, match services.gate token with
      | some reply => .ended reply
      | none =>
        if token.workspaceId ∈ w.workspaces then .checkingEmail token
        else .ended ⟨404, "Workspace not found"⟩)
  | .acceptInvitation inviteToken bearer _ =>
    (w, match w.invitations.find? fun i => i.tokenHash = services.hashInvitationToken inviteToken with
      | none => .ended ⟨404, "Invitation not found"⟩
      | some invitation =>
        -- `datetime.utcnow()` is naive
        match (Datetime.aware invitation.expiresAt).lt (.naive w.now) with
        | none => .ended unhandledError
        | some true => .ended ⟨410, "Invitation has expired"⟩
        | some false =>
          if invitation.accepted then .ended ⟨410, "Invitation has already been accepted"⟩
          else
            match bearer with
            | none => .ended ⟨303, []⟩
            | some jwt =>
              match services.decodeJwt jwt with
              | none => .ended ⟨401, "Invalid or expired token"⟩
              | some userId => .matching invitation userId)
  | .createApiKey token _ _ =>
    let count := w.keys token.workspaceId
    (w, match services.keyCap token.workspaceId with
      | some cap =>
        if cap ≤ count then .ended ⟨402, "api_key_limit_reached"⟩ else .insertingKey token count
      | none => .insertingKey token count)
  | .revokeApiKey token keyId =>
    ({ w with
        apiKeys := w.apiKeys.map fun row =>
          if token.mayWithdraw keyId row then { row with revoked := true } else row },
      .ended (if w.apiKeys.any (token.mayWithdraw keyId) then ⟨200, []⟩
        else ⟨404, "api_key_not_found"⟩))

/-- `UPDATE workspace_members … WHERE id = $1`. -/
def TeamWorld.updateMember (w : TeamWorld) (memberId : Str) (set : TeamMember → TeamMember)
    (change : TeamMember → TeamChange) : TeamWorld :=
  { w with
    members := w.members.map fun m => if m.id = memberId then set m else m
    log := ((w.members.find? fun m => m.id = memberId).map change).toList ++ w.log }

def lastOwner : TeamRequest → Str
  | .updateMemberRole _ _ _ => "Cannot downgrade the last owner"
  | _ => "Cannot remove the last owner of workspace"

def TeamWorld.advance (w : TeamWorld) (request : TeamRequest) :
    TeamPhase → Option (TeamWorld × TeamPhase)
  | .entering => some (w.enter services request)
  | .counting token memberId role =>
    let owners := w.owners token.workspaceId
    some (w, if owners ≤ 1 then .ended ⟨400, lastOwner request⟩
      else .updating token memberId role (some owners))
  | .updating token memberId _ _ =>
    let own := w.roleOf token.workspaceId token.userId
    match request with
    | .removeMember _ _ =>
      some (w.updateMember memberId (fun m => { m with active := false })
        fun m => .removed token own m.role, .ended ⟨200, []⟩)
    | .updateMemberRole _ _ role =>
      some (w.updateMember memberId (fun m => { m with role })
        fun m => .roleChanged token own m.role role, .ended ⟨200, []⟩)
    | _ => none
  | .checkingEmail token =>
    match request with
    | .inviteMember _ email _ _ _ =>
      let existing := w.members.any fun m => m.of token.workspaceId && w.users.any fun u =>
        u.id = m.userId && u.emailHash = services.lookupHash email
      some (w, if existing then .ended ⟨409, "User is already a member of this workspace"⟩
        else .countingSeats token)
    | _ => none
  | .countingSeats token =>
    match request with
    | .inviteMember _ _ role _ _ =>
      some (w,
        if services.seatLimit token.workspaceId ≤ w.seats token.workspaceId then
          .ended ⟨402, "seat_limit_reached"⟩
        else if role ∉ invitedRoles then
          .ended ⟨400, "Invalid role (must be viewer or admin)"⟩
        else .inviting token)
    | _ => none
  | .inviting token =>
    match request with
    | .inviteMember _ email role invitationId inviteToken =>
      let tokenHash := services.hashInvitationToken inviteToken
      if w.invitations.any fun i => i.id = invitationId || i.tokenHash = tokenHash then
        some (w, .ended ⟨500, "Failed to create invitation"⟩)
      else
        some ({ w with
            invitations := w.invitations ++ [⟨invitationId, token.workspaceId, email, role,
              tokenHash, w.now + services.invitationExpiry, false⟩]
            log := .invited token (w.roleOf token.workspaceId token.userId) role :: w.log },
          .ended ⟨200, []⟩)
    | _ => none
  | .matching invitation userId =>
    some (w, match w.users.find? fun u => u.id = userId with
      | none => .ended ⟨400, "User not found"⟩
      | some user =>
        if user.emailHash ≠ services.lookupHash invitation.email then
          .ended ⟨409, "Invitation email does not match your account email"⟩
        else .findingMember invitation userId)
  -- `ensure_workspace_member`
  | .findingMember invitation userId =>
    some (w, match w.roleOf invitation.workspaceId userId with
      | some _ => .accepting invitation
      | none => .joining invitation userId)
  | .joining invitation userId =>
    match request with
    | .acceptInvitation _ _ memberId =>
      if w.memberTaken memberId invitation.workspaceId userId then
        some (w, .ended ⟨500, "Failed to accept invitation"⟩)
      else
        some ({ w with
            members := w.members ++
              [⟨memberId, invitation.workspaceId, userId, invitation.role, true⟩]
            log := .joined invitation.role :: w.log },
          .accepting invitation)
    | _ => none
  | .accepting invitation =>
    some ({ w with
        invitations := w.invitations.map fun i =>
          if i.id = invitation.id then { i with accepted := true } else i },
      .ended ⟨303, []⟩)
  | .insertingKey token _ =>
    match request with
    | .createApiKey _ keyId keyHash =>
      if w.keyTaken keyId keyHash then
        some (w, .ended unhandledError)
      else
        some ({ w with
            apiKeys := w.apiKeys ++ [{
              id := keyId
              workspaceId := token.workspaceId
              keyHash
              createdBy := some token.userId }] },
          .ended ⟨200, []⟩)
    | _ => none
  | .ended _ => none

def TeamWorld.tick (w : TeamWorld) (time : ℚ) : TeamWorld := { w with now := time }

def teamRoutes : Routes TeamWorld TeamRequest TeamPhase ℚ where
  advance := TeamWorld.advance services
  happen := TeamWorld.tick

abbrev TeamState := Fleet TeamWorld TeamRequest TeamPhase

abbrev TeamLabel := FleetLabel ℚ

def teamMachine : Machine TeamState TeamLabel := (teamRoutes services).machine

end

/-! ## What a statement changes -/

def updated (memberId : Str) (set : TeamMember → TeamMember) (members : List TeamMember) :
    List TeamMember :=
  members.map fun m => if m.id = memberId then set m else m

/-- What a statement makes of the members. -/
inductive MembersAfter (w : TeamWorld) : TeamRequest → TeamPhase → List TeamMember → Prop where
  | same {request phase} : MembersAfter w request phase w.members
  | removed {token memberId role owners token' memberId'} :
      MembersAfter w (.removeMember token' memberId') (.updating token memberId role owners)
        (updated memberId (fun m => { m with active := false }) w.members)
  | roleSet {token memberId role owners token' memberId' newRole} :
      MembersAfter w (.updateMemberRole token' memberId' newRole)
        (.updating token memberId role owners)
        (updated memberId (fun m => { m with role := newRole }) w.members)
  | joined {invitation userId inviteToken bearer memberId}
      (free : w.memberTaken memberId invitation.workspaceId userId = false) :
      MembersAfter w (.acceptInvitation inviteToken bearer memberId) (.joining invitation userId)
        (w.members ++ [⟨memberId, invitation.workspaceId, userId, invitation.role, true⟩])

/-- What a statement makes of the keys. -/
inductive KeysAfter (w : TeamWorld) : TeamRequest → TeamPhase → List ApiKeyRow → Prop where
  | same {request phase} : KeysAfter w request phase w.apiKeys
  | revoked {token keyId} :
      KeysAfter w (.revokeApiKey token keyId) .entering (w.apiKeys.map fun row =>
        if token.mayWithdraw keyId row then { row with revoked := true } else row)
  | created {token count token' keyId keyHash} (free : w.keyTaken keyId keyHash = false) :
      KeysAfter w (.createApiKey token' keyId keyHash) (.insertingKey token count)
        (w.apiKeys ++ [{
          id := keyId
          workspaceId := token.workspaceId
          keyHash
          createdBy := some token.userId }])

section

variable {services : TeamServices} {w w' : TeamWorld} {request : TeamRequest}
  {phase next : TeamPhase}

/-- No invitation is ever accepted: the comparison of its expiry raises. -/
theorem enter_acceptInvitation (inviteToken : Str) (bearer : Option Str) (memberId : Str) :
    w.enter services (.acceptInvitation inviteToken bearer memberId) =
      (w, .ended (if w.invitations.any (·.tokenHash = services.hashInvitationToken inviteToken) then
        unhandledError else ⟨404, "Invitation not found"⟩)) := by
  rw [TeamWorld.enter, List.any_eq]
  cases found : w.invitations.find? fun i => i.tokenHash = services.hashInvitationToken inviteToken with
  | none =>
    rw [List.find?_eq_none] at found
    rw [if_neg (by simpa using found)]
  | some invitation =>
    have matches_ := List.find?_some found
    rw [if_pos (by simpa using ⟨invitation, List.mem_of_find?_eq_some found, by simpa using matches_⟩)]
    rfl

theorem enter_members : (w.enter services request).1.members = w.members := by
  cases request <;> rfl

theorem advance_members (went : w.advance services request phase = some (w', next)) :
    MembersAfter w request phase w'.members := by
  cases phase with
  | entering =>
    have entered := @enter_members services w request
    rw [show w.enter services request = (w', next) from Option.some.inj went] at entered
    rw [entered]
    exact .same
  | updating token memberId role owners =>
    cases request with
    | removeMember => cases went; exact .removed
    | updateMemberRole => cases went; exact .roleSet
    | _ => cases went
  | joining invitation userId =>
    cases request with
    | acceptInvitation inviteToken bearer memberId =>
      simp only [TeamWorld.advance] at went
      split at went
      · cases went
        exact .same
      · rename_i free
        cases went
        exact .joined (by simpa using free)
    | _ => cases went
  | counting | matching | findingMember | accepting => cases went; exact .same
  | checkingEmail | countingSeats =>
    cases request with
    | inviteMember => cases went; exact .same
    | _ => cases went
  | inviting token =>
    cases request with
    | inviteMember =>
      simp only [TeamWorld.advance] at went
      split at went <;> cases went <;> exact .same
    | _ => cases went
  | insertingKey token count =>
    cases request with
    | createApiKey =>
      simp only [TeamWorld.advance] at went
      split at went <;> cases went <;> exact .same
    | _ => cases went
  | ended reply => cases went

theorem advance_apiKeys (went : w.advance services request phase = some (w', next)) :
    KeysAfter w request phase w'.apiKeys := by
  cases phase with
  | entering => cases request <;> cases went <;> first | exact .revoked | exact .same
  | updating token memberId role owners =>
    cases request with
    | removeMember | updateMemberRole => cases went; exact .same
    | _ => cases went
  | joining invitation userId =>
    cases request with
    | acceptInvitation =>
      simp only [TeamWorld.advance] at went
      split at went <;> cases went <;> exact .same
    | _ => cases went
  | counting | matching | findingMember | accepting => cases went; exact .same
  | checkingEmail | countingSeats =>
    cases request with
    | inviteMember => cases went; exact .same
    | _ => cases went
  | inviting token =>
    cases request with
    | inviteMember =>
      simp only [TeamWorld.advance] at went
      split at went <;> cases went <;> exact .same
    | _ => cases went
  | insertingKey token count =>
    cases request with
    | createApiKey =>
      simp only [TeamWorld.advance] at went
      split at went
      · cases went
        exact .same
      · rename_i free
        cases went
        exact .created (by simpa using free)
    | _ => cases went
  | ended reply => cases went

end

end BurnLens.Backend
