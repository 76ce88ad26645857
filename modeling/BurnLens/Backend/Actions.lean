import BurnLens.Backend.Signature
import BurnLens.Backend.Team
import BurnLens.Library.Jsonb

/-! # Remedies and their reversal

`execute_action` of a signed link, and `revert_action` of the activity it has logged.
-/

namespace BurnLens.Backend

open Library

/-! ## State -/

/-- A row of `workspace_activity`. -/
structure ActivityRow where
  workspaceId : Str
  action : Str
  detail : Json

def BigInt (n : Int) : Prop := -2 ^ 63 ≤ n ∧ n < 2 ^ 63

instance (n : Int) : Decidable (BigInt n) := inferInstanceAs (Decidable (_ ∧ _))

/-- `workspace_activity` by its serial id. -/
structure ActivityLog where
  rows : Int → Option ActivityRow := fun _ => none
  next : Int := 1
  fits : ∀ id, (rows id).isSome = true → BigInt id

def ActivityLog.insert (log : ActivityLog) (row : ActivityRow) : ActivityLog :=
  if fits : BigInt log.next then
    { rows := Function.update log.rows log.next (some row)
      next := log.next + 1
      fits := fun id here => by
        by_cases same : id = log.next
        · exact same ▸ fits
        · rw [Function.update_of_ne same] at here
          exact log.fits id here }
  else log

/-- The tables, with the override columns of `workspaces` by its id. -/
structure ActionWorld where
  keys : KeyWorld
  limitOverrides : Str → Option Json := fun _ => none
  routingOverrides : Str → Option Json := fun _ => none
  usedActionTokens : List Str := []
  activity : ActivityLog

/-- What a remedy may change. -/
structure Governed where
  apiKeys : List ApiKeyRow
  limitOverrides : Str → Option Json
  routingOverrides : Str → Option Json

def ActionWorld.governed (w : ActionWorld) : Governed :=
  ⟨w.keys.apiKeys, w.limitOverrides, w.routingOverrides⟩

structure ActionTokenPayload where
  action : Str
  workspaceId : Str
  targetId : Option Str := none
  jti : Str
deriving DecidableEq

/-- What the requests take from elsewhere. -/
structure ActionEnv where
  -- the payload of a token that is signed and has not expired
  verifyActionToken : Str → Option ActionTokenPayload
  -- `monthly_request_cap` of `plan_limits`, by plan
  planCaps : Str → Option (Option Int)
  -- `(value)::int`, nothing where it raises
  castInt : Json → Option Int
  -- the id that a text is for the driver, nothing where it raises
  uuid : Str → Option Str

structure Refusal where
  status : Nat
  detail : Json

def refuse (status : Nat) (detail : Str) : Refusal := ⟨status, .str detail⟩

def internalError : Refusal := refuse 500 "internal_error"

def roleRefusal (current : Str) : Refusal :=
  ⟨403, .obj [("error", .str "insufficient_role"), ("required", .str "admin"),
    ("current", .str current)]⟩

def executedMessage (action : Str) : Str :=
  "Action ".toList ++ action ++ " executed successfully".toList

inductive Remedy where
  | pauseApiKey
  | increaseBudget
  | downgradeModel
deriving DecidableEq

def Remedy.action : Remedy → Str
  | .pauseApiKey => "pause_api_key"
  | .increaseBudget => "increase_budget"
  | .downgradeModel => "downgrade_model"

def Remedy.revertAction : Remedy → Str
  | .pauseApiKey => "unpause_api_key"
  | .increaseBudget => "revert_budget"
  | .downgradeModel => "revert_downgrade"

def remedies : List Remedy := [.pauseApiKey, .increaseBudget, .downgradeModel]

def executedRemedy (action : Str) : Option Remedy := remedies.find? fun r => r.action = action

def revertedRemedy (action : Str) : Option Remedy := remedies.find? fun r => r.revertAction = action

theorem revertedRemedy_iff {action : Str} {remedy : Remedy} :
    revertedRemedy action = some remedy ↔ remedy.revertAction = action := by
  constructor
  · intro found
    exact of_decide_eq_true (List.find?_some found :)
  · rintro rfl
    cases remedy <;> rfl

/-! ## Handlers -/

def ActionWorld.hasWorkspace (w : ActionWorld) (workspaceId : Str) : Bool :=
  w.keys.workspaces.any fun row => row.id = workspaceId

/-- `UPDATE workspaces SET column = … WHERE id = $1`. -/
def ActionWorld.updateColumn (w : ActionWorld) (column : Str → Option Json) (workspaceId : Str)
    (set : Option Json → Except PyError (Option Json)) : Except PyError (Str → Option Json) :=
  if w.hasWorkspace workspaceId then
    (set (column workspaceId)).map fun value => Function.update column workspaceId value
  else .ok column

def ActionWorld.updateLimits (w : ActionWorld) (workspaceId : Str)
    (set : Option Json → Except PyError (Option Json)) : Except PyError (ActionWorld × Bool) :=
  (w.updateColumn w.limitOverrides workspaceId set).map fun column =>
    ({ w with limitOverrides := column }, true)

def ActionWorld.updateRouting (w : ActionWorld) (workspaceId : Str)
    (set : Option Json → Except PyError (Option Json)) : Except PyError (ActionWorld × Bool) :=
  (w.updateColumn w.routingOverrides workspaceId set).map fun column =>
    ({ w with routingOverrides := column }, true)

/-- `COALESCE(column, '\x7b\x7d') || new`. -/
def override (new : Fields) (column : Option Json) : Except PyError (Option Json) :=
  .ok (some ((column.getD (.obj [])).concat new))

/-- `column - key - …`. -/
def withdraw (keys : List Str) : Option Json → Except PyError (Option Json)
  | none => .ok none
  | some value => (value.deleteKeys keys).map some

/-- `paused_at` of the rows that are named, and the cache. -/
def ActionWorld.setPaused (w : ActionWorld) (where_ : ApiKeyRow → Bool) (paused : Bool) :
    ActionWorld × Bool :=
  let (keys, keyHash) := w.keys.updateKeys where_ fun row => { row with paused := paused }
  match keyHash with
  | some keyHash => ({ w with keys := keys.evict keyHash }, true)
  | none => ({ w with keys := keys }, false)

/-- `monthly_request_cap` of `resolve_limits`, nothing without a row; a cast may raise. -/
def resolveCap (env : ActionEnv) (w : ActionWorld) (workspaceId : Str) :
    Except PyError (Option (Option Int)) :=
  match w.keys.workspaces.find? fun row => row.id = workspaceId with
  | none => .ok none
  | some row =>
    match env.planCaps row.plan with
    | none => .ok none
    | some cap =>
      match w.limitOverrides workspaceId with
      | some (.obj fields) =>
        match Fields.getD fields "monthly_request_cap" .null with
        | .null => .ok (some cap)
        | value =>
          match env.castInt value with
          | some n => .ok (some (some n))
          | none => .error .databaseError
      | _ => .ok (some cap)

/-- `int(current_cap * 1.5)`, where the free tier stands in for none or zero. -/
def increasedCap (cap : Option Int) : Int :=
  let current := if cap.getD 0 = 0 then 10000 else cap.getD 0
  (current * 3).tdiv 2

example : increasedCap none = 15000 ∧ increasedCap (some 3) = 4 := by decide

def handlePauseApiKey (env : ActionEnv) (w : ActionWorld) (workspaceId : Str) :
    Option Str → Except PyError (ActionWorld × Bool)
  | none | some [] => .ok (w, false)
  | some keyId =>
    match env.uuid keyId with
    | none => .error .databaseError
    | some keyId =>
      .ok (w.setPaused (fun row => row.named keyId workspaceId none && !row.revoked) true)

/-- `_handle_increase_budget`; a cap that is no `int` of the database raises. -/
def handleIncreaseBudget (env : ActionEnv) (w : ActionWorld) (workspaceId : Str) :
    Except PyError (ActionWorld × Bool) :=
  match resolveCap env w workspaceId with
  | .error error => .error error
  | .ok none => .ok (w, false)
  | .ok (some cap) =>
    if -2 ^ 31 ≤ increasedCap cap ∧ increasedCap cap < 2 ^ 31 then
      w.updateLimits workspaceId (override [("monthly_request_cap", .int (increasedCap cap))])
    else .error .databaseError

def downgradedFields : Fields :=
  [("budget_downgrade", .bool true), ("downgrade_threshold_pct", .float (.fin 50))]

def handleDowngradeModel (w : ActionWorld) (workspaceId : Str) :
    Except PyError (ActionWorld × Bool) :=
  w.updateRouting workspaceId (override downgradedFields)

/-- `_log_action_activity`, which a failure does not stop. -/
def logActionActivity (w : ActionWorld) (workspaceId action : Str) (detail : Fields) :
    ActionWorld :=
  if w.hasWorkspace workspaceId then
    { w with activity := w.activity.insert ⟨workspaceId, "action_".toList ++ action, .obj detail⟩ }
  else w

/-! ## Requests -/

def targetDetail (targetId : Option Str) : Fields :=
  [("target_id", match targetId with
    | some id => .str id
    | none => .null)]

def handleRemedy (env : ActionEnv) (w : ActionWorld) (payload : ActionTokenPayload) :
    Remedy → Except PyError (ActionWorld × Bool)
  | .pauseApiKey => handlePauseApiKey env w payload.workspaceId payload.targetId
  | .increaseBudget => handleIncreaseBudget env w payload.workspaceId
  | .downgradeModel => handleDowngradeModel w payload.workspaceId

/-- `execute_action`, of the token of the form. -/
def executeAction (env : ActionEnv) (w : ActionWorld) (token : Option Str) :
    ActionWorld × Except Refusal Str :=
  match token with
  | none | some [] => (w, .error (refuse 400 "missing_token"))
  | some token =>
    match env.verifyActionToken token with
    | none => (w, .error (refuse 400 "invalid_or_expired_token"))
    | some payload =>
      -- `consume_action_token`
      if payload.jti ∈ w.usedActionTokens then (w, .error (refuse 400 "token_already_consumed"))
      else
        let w := { w with usedActionTokens := payload.jti :: w.usedActionTokens }
        match executedRemedy payload.action with
        | none => (w, .error (refuse 400 "unknown_action"))
        | some remedy =>
          match handleRemedy env w payload remedy with
          | .error _ => (w, .error internalError)
          | .ok (w, false) => (w, .error (refuse 500 "action_failed"))
          | .ok (w, true) =>
            (logActionActivity w payload.workspaceId payload.action (targetDetail payload.targetId),
              .ok (executedMessage payload.action))

def cappedKeys : List Str := ["monthly_request_cap"]

def downgradedKeys : List Str := ["budget_downgrade", "downgrade_threshold_pct"]

/-- `detail.get("target_id")`, where it is for `key_id`. -/
def revertedTarget (env : ActionEnv) (detail : Json) : Except Refusal Str :=
  match detail.dict with
  | .error _ => .error internalError
  | .ok fields =>
    match Fields.getD fields "target_id" .null with
    | .str [] => .error (refuse 400 "missing_target_key")
    | .str keyId =>
      match env.uuid keyId with
      | none => .error internalError
      | some keyId => .ok keyId
    | value => .error (if value.truthy then internalError else refuse 400 "missing_target_key")

def undoRemedy (env : ActionEnv) (w : ActionWorld) (workspaceId : Str) (detail : Json) :
    Remedy → Except Refusal (ActionWorld × Bool)
  | .pauseApiKey =>
    (revertedTarget env detail).map fun keyId =>
      w.setPaused (fun row => row.named keyId workspaceId none) false
  | .increaseBudget =>
    (w.updateLimits workspaceId (withdraw cappedKeys)).mapError fun _ => internalError
  | .downgradeModel =>
    (w.updateRouting workspaceId (withdraw downgradedKeys)).mapError fun _ => internalError

def revertAction (env : ActionEnv) (w : ActionWorld) (token : TokenPayload)
    (originalActivityId action : Str) : ActionWorld × Except Refusal Str :=
  if !token.isAdmin then (w, .error (roleRefusal token.role))
  else
    match parseInt originalActivityId with
    | none => (w, .error (refuse 400 "invalid_activity_id"))
    | some activityId =>
      -- the driver raises, outside of the `try`
      if ¬ BigInt activityId then (w, .error (refuse 500 "Internal Server Error"))
      else
        match (w.activity.rows activityId).filter fun row => row.workspaceId = token.workspaceId with
        | none => (w, .error (refuse 404 "activity_not_found"))
        | some original =>
          match revertedRemedy action with
          | none => (w, .error (refuse 400 "unsupported_revert_action"))
          | some remedy =>
            match undoRemedy env w token.workspaceId original.detail remedy with
            | .error refusal => (w, .error refusal)
            | .ok (w, false) => (w, .error (refuse 500 "revert_failed"))
            | .ok (w, true) =>
              (logActionActivity w token.workspaceId action [("reverted_id", .int activityId)],
                .ok (executedMessage action))

end BurnLens.Backend
