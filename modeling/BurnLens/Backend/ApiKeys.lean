import BurnLens.Library.Fleet
import BurnLens.Library.Text
import Mathlib.Algebra.Order.Ring.Rat

/-! # API keys

`get_workspace_by_api_key` beside the operations that revoke, pause and resume a key, cut into
their statements.  The cache is the one of a process; a statement and what follows its answer
are steps of their own.
-/

namespace BurnLens.Backend

open Library

/-! ## Tables -/

/-- A row of `api_keys`. -/
structure ApiKeyRow where
  id : Str
  workspaceId : Str
  keyHash : Str
  createdBy : Option Str := none
  -- `revoked_at` and `paused_at` are set
  revoked : Bool := false
  paused : Bool := false
deriving DecidableEq

def ApiKeyRow.enabled (row : ApiKeyRow) : Bool := !row.revoked && !row.paused

/-- A row of `workspaces`, with the legacy column. -/
structure WorkspaceRow where
  id : Str
  plan : Str
  active : Bool := true
  apiKeyHash : Option Str := none
deriving DecidableEq

structure CachedKey where
  workspaceId : Str
  plan : Str
  apiKeyId : Option Str
  cachedAt : ℚ
deriving DecidableEq

/-- A key that was revoked, or paused after so many resumes. -/
structure Withdrawal where
  keyHash : Str
  pausedAfter : Option Nat
deriving DecidableEq

structure KeyWorld where
  now : ℚ
  apiKeys : List ApiKeyRow
  workspaces : List WorkspaceRow
  cache : Str → Option CachedKey := fun _ => none
  -- the keys that were resumed
  resumed : List Str := []
  -- the withdrawals that are out of the cache, and those that have returned
  evicted : List Withdrawal := []
  returned : List Withdrawal := []

/-- A revocation is for good, a pause until the key is resumed. -/
def KeyWorld.inForce (w : KeyWorld) (withdrawal : Withdrawal) : Bool :=
  match withdrawal.pausedAfter with
  | none => true
  | some resumes => resumes = w.resumed.count withdrawal.keyHash

/-! ## Operations -/

def apiKeyCacheTtl : ℚ := 60

/-- The claims of a session. -/
structure TokenPayload where
  workspaceId : Str
  userId : Str
  role : Str
deriving DecidableEq

/-- `_viewer_creator_filter`. -/
def TokenPayload.creatorFilter (token : TokenPayload) : Option Str :=
  if token.role = ("viewer" : Str) then some token.userId else none

inductive KeyRequest where
  -- `get_workspace_by_api_key`
  | lookup (apiKey : Str)
  | revoke (token : TokenPayload) (keyId : Str)
  | pause (token : TokenPayload) (keyId : Str)
  | resume (token : TokenPayload) (keyId : Str)
  -- `_handle_pause_api_key`, and `unpause_api_key` among the reversals
  | pauseAction (workspaceId keyId : Str)
  | unpauseAction (workspaceId keyId : Str)

inductive KeyPhase where
  | entering
  -- a lookup, with the withdrawals that had returned when it began
  | querying (before : List Withdrawal)
  | fallingBack (before : List Withdrawal)
  | storing (before : List Withdrawal) (workspaceId plan : Str) (apiKeyId : Option Str)
  | answered (before : List Withdrawal) (workspace : Option (Str × Str))
  -- an operation that has updated the row
  | evicting (withdrawal : Withdrawal)
  | clearing (withdrawal : Withdrawal)
  | returning (withdrawal : Withdrawal)
  | unpausing (keyHash : Str)
  | ended (status : Nat)

/-- The rows that an operation names: of the workspace, and of the creator if there is a filter. -/
def ApiKeyRow.named (keyId workspaceId : Str) (creatorFilter : Option Str) (row : ApiKeyRow) :
    Bool :=
  row.id = keyId && row.workspaceId = workspaceId &&
    creatorFilter.all fun creator => row.createdBy = some creator

def TokenPayload.mayWithdraw (token : TokenPayload) (keyId : Str) (row : ApiKeyRow) : Bool :=
  row.named keyId token.workspaceId token.creatorFilter && !row.revoked

/-- `UPDATE api_keys … RETURNING key_hash`. -/
def KeyWorld.updateKeys (w : KeyWorld) (where_ : ApiKeyRow → Bool) (set : ApiKeyRow → ApiKeyRow) :
    KeyWorld × Option Str :=
  ({ w with apiKeys := w.apiKeys.map fun row => if where_ row then set row else row },
    (w.apiKeys.find? where_).map ApiKeyRow.keyHash)

def KeyWorld.selectKey (w : KeyWorld) (keyHash : Str) : Option (WorkspaceRow × ApiKeyRow) :=
  w.apiKeys.findSome? fun row =>
    if row.keyHash = keyHash && row.enabled then
      (w.workspaces.find? fun workspace => workspace.id = row.workspaceId && workspace.active).map
        fun workspace => (workspace, row)
    else none

def KeyWorld.selectLegacy (w : KeyWorld) (keyHash : Str) : Option WorkspaceRow :=
  w.workspaces.find? fun workspace => workspace.apiKeyHash = some keyHash && workspace.active

def notFound : Nat := 404

def actionFailed : Nat := 500

/-- What follows the update of a revocation or a pause. -/
def withdrawn (pausedAfter : Str → Option Nat) (missing : Nat) : Option Str → KeyPhase
  | some keyHash => .evicting ⟨keyHash, pausedAfter keyHash⟩
  | none => .ended missing

def KeyWorld.pause (w : KeyWorld) (workspaceId keyId : Str) (creatorFilter : Option Str)
    (missing : Nat) : KeyWorld × KeyPhase :=
  let (w', keyHash) := w.updateKeys
    (fun row => row.named keyId workspaceId creatorFilter && !row.revoked)
    fun row => { row with paused := true }
  (w', withdrawn (fun keyHash => some (w.resumed.count keyHash)) missing keyHash)

def KeyWorld.revoke (w : KeyWorld) (token : TokenPayload) (keyId : Str) : KeyWorld × KeyPhase :=
  let (w', keyHash) := w.updateKeys (token.mayWithdraw keyId) fun row =>
    { row with revoked := true }
  (w', withdrawn (fun _ => none) notFound keyHash)

/-- `paused_at = NULL`, where the rows may be limited to those that are not revoked. -/
def KeyWorld.resume (w : KeyWorld) (where_ : ApiKeyRow → Bool) : KeyWorld × Option Str :=
  let (w', keyHash) := w.updateKeys where_ fun row => { row with paused := false }
  ({ w' with resumed := keyHash.toList ++ w'.resumed }, keyHash)

def KeyWorld.store (w : KeyWorld) (keyHash workspaceId plan : Str) (apiKeyId : Option Str) :
    KeyWorld :=
  { w with cache := Function.update w.cache keyHash (some ⟨workspaceId, plan, apiKeyId, w.now⟩) }

def KeyWorld.evict (w : KeyWorld) (keyHash : Str) : KeyWorld :=
  { w with cache := Function.update w.cache keyHash none }

section

variable (hashApiKey : Str → Str)

def KeyWorld.enterLookup (w : KeyWorld) (keyHash : Str) : KeyWorld × KeyPhase :=
  match w.cache keyHash with
  | some entry =>
    if w.now - entry.cachedAt < apiKeyCacheTtl then
      (w, .answered w.returned (some (entry.workspaceId, entry.plan)))
    else (w.evict keyHash, .querying w.returned)
  | none => (w, .querying w.returned)

def KeyWorld.advance (w : KeyWorld) (request : KeyRequest) :
    KeyPhase → Option (KeyWorld × KeyPhase)
  | .entering =>
    match request with
    | .lookup apiKey => some (w.enterLookup (hashApiKey apiKey))
    | .revoke token keyId => some (w.revoke token keyId)
    | .pause token keyId => some (w.pause token.workspaceId keyId token.creatorFilter notFound)
    | .pauseAction workspaceId keyId => some (w.pause workspaceId keyId none actionFailed)
    | .resume token keyId =>
      let (w', keyHash) := w.resume (token.mayWithdraw keyId)
      some (w', .ended (if keyHash.isSome then 200 else notFound))
    | .unpauseAction workspaceId keyId =>
      let (w', keyHash) := w.resume fun row => row.named keyId workspaceId none
      some (w', match keyHash with
        | some keyHash => .unpausing keyHash
        | none => .ended actionFailed)
  | .querying before =>
    match request with
    | .lookup apiKey =>
      some (w, match w.selectKey (hashApiKey apiKey) with
        | some (workspace, row) => .storing before workspace.id workspace.plan (some row.id)
        | none => .fallingBack before)
    | _ => none
  | .fallingBack before =>
    match request with
    | .lookup apiKey =>
      some (w, match w.selectLegacy (hashApiKey apiKey) with
        | some workspace => .storing before workspace.id workspace.plan none
        | none => .answered before none)
    | _ => none
  | .storing before workspaceId plan apiKeyId =>
    match request with
    | .lookup apiKey =>
      some (w.store (hashApiKey apiKey) workspaceId plan apiKeyId,
        .answered before (some (workspaceId, plan)))
    | _ => none
  | .evicting withdrawal =>
    let w' := { w.evict withdrawal.keyHash with evicted := withdrawal :: w.evicted }
    match request with
    | .revoke _ _ => some (w', .clearing withdrawal)
    | _ => some ({ w' with returned := withdrawal :: w'.returned }, .ended 200)
  -- the legacy column
  | .clearing withdrawal =>
    match request with
    | .revoke token _ =>
      some ({ w with
          workspaces := w.workspaces.map fun workspace =>
            if workspace.id = token.workspaceId &&
                workspace.apiKeyHash = some withdrawal.keyHash then
              { workspace with apiKeyHash := none }
            else workspace },
        .returning withdrawal)
    | _ => none
  | .returning withdrawal =>
    some ({ w with returned := withdrawal :: w.returned }, .ended 200)
  | .unpausing keyHash => some (w.evict keyHash, .ended 200)
  | .answered _ _ | .ended _ => none

def KeyWorld.tick (w : KeyWorld) (time : ℚ) : KeyWorld := { w with now := time }

def keyRoutes : Routes KeyWorld KeyRequest KeyPhase ℚ where
  advance := KeyWorld.advance hashApiKey
  happen := KeyWorld.tick

abbrev KeyState := Fleet KeyWorld KeyRequest KeyPhase

abbrev KeyLabel := FleetLabel ℚ

def keyMachine : Machine KeyState KeyLabel := (keyRoutes hashApiKey).machine

end

end BurnLens.Backend
