import BurnLens.Backend.Actions
import Mathlib.Logic.Function.Basic

/-! # What a reversal restores

A reversal takes away what its kind may have set, whoever has set it and whatever was there before:
the state is as before where the remedy found nothing of the kind.
-/

namespace BurnLens.Backend

open Library

section

variable {env : ActionEnv} {w w' : ActionWorld} {workspaceId : Str} {keys : List Str}
  {column column' : Str → Option Json}

def pauseRows (where_ : ApiKeyRow → Bool) (paused : Bool) (rows : List ApiKeyRow) :
    List ApiKeyRow :=
  rows.map fun row => if where_ row then { row with paused := paused } else row

theorem setPaused_governed (w : ActionWorld) (where_ : ApiKeyRow → Bool) (paused : Bool) :
    (w.setPaused where_ paused).1.governed =
      { w.governed with apiKeys := pauseRows where_ paused w.keys.apiKeys } := by
  simp only [ActionWorld.setPaused, KeyWorld.updateKeys]
  split <;> rfl

theorem pauseRows_false {where_ : ApiKeyRow → Bool} {rows : List ApiKeyRow} :
    pauseRows where_ false rows = rows ↔ ∀ row ∈ rows, where_ row = true → row.paused = false := by
  have fixed : pauseRows where_ false rows = rows ↔
      ∀ row ∈ rows, (if where_ row then { row with paused := false } else row) = row := by
    conv_lhs => rhs; rw [← List.map_id rows]
    exact List.map_inj_left
  rw [fixed]
  refine forall₂_congr fun row _ => ?_
  by_cases named : where_ row = true
  · rw [if_pos named]
    exact ⟨fun same _ => (congrArg ApiKeyRow.paused same).symm, fun active => by
      rw [← active named]⟩
  · rw [if_neg named]
    exact ⟨fun _ => fun never => absurd never named, fun _ => rfl⟩

theorem pauseRows_pauseRows {where_ some_ : ApiKeyRow → Bool} (paused : Bool)
    (within : ∀ row, some_ row = true → where_ row = true)
    (steady : ∀ row paused, where_ { row with paused := paused } = where_ row)
    (rows : List ApiKeyRow) :
    pauseRows where_ false (pauseRows some_ paused rows) = pauseRows where_ false rows := by
  rw [pauseRows, pauseRows, List.map_map]
  refine List.map_congr_left fun row _ => ?_
  simp only [Function.comp_apply]
  by_cases here : some_ row = true
  · rw [if_pos here, if_pos (within row here), if_pos ((steady row paused).trans (within row here))]
  · rw [if_neg here]

/-! ## The columns -/

theorem updateColumn_of_absent (absent : w.hasWorkspace workspaceId = false)
    (set : Option Json → Except PyError (Option Json)) :
    w.updateColumn column workspaceId set = .ok column := by
  rw [ActionWorld.updateColumn, absent]
  rfl

theorem updateColumn_of_present (present : w.hasWorkspace workspaceId = true)
    (set : Option Json → Except PyError (Option Json)) :
    w.updateColumn column workspaceId set =
      (set (column workspaceId)).map fun value => Function.update column workspaceId value := by
  rw [ActionWorld.updateColumn, present]
  rfl

theorem update_eq_self {value : Option Json} :
    Function.update column workspaceId value = column ↔ value = column workspaceId := by
  rw [Function.update_eq_iff]
  exact and_iff_left fun _ _ => rfl

def Unmentioned (keys : List Str) (column : Option Json) : Prop :=
  ∀ value, column = some value → ∀ key ∈ keys, value.mentions key = false

/-- A withdrawal leaves the column where it raises, and where it has nothing to withdraw. -/
theorem withdraw_iff (column : Option Json) :
    (∀ value, withdraw keys column = .ok value → value = column) ↔ Unmentioned keys column := by
  cases column with
  | none =>
    exact ⟨fun _ _ never => (by cases never), fun _ value done => (by cases done; rfl)⟩
  | some value =>
    cases deleted : value.deleteKeys keys with
    | error error =>
      refine ⟨fun _ _ same key _ => ?_, fun _ _ done => ?_⟩
      · cases same
        exact Json.mentions_of_error deleted key
      · rw [withdraw, deleted] at done
        cases done
    | ok other =>
      have kept := Json.deleteKeys_self deleted
      rw [withdraw, deleted]
      constructor
      · rintro all _ same
        cases same
        exact kept.mp (Option.some.inj (all _ rfl))
      · rintro absent _ done
        cases done
        exact congrArg some (kept.mpr (absent value rfl))

theorem updateColumn_withdraw_iff (w : ActionWorld) (column : Str → Option Json) :
    (∀ column', w.updateColumn column workspaceId (withdraw keys) = .ok column' →
        column' = column) ↔
      (w.hasWorkspace workspaceId = true → Unmentioned keys (column workspaceId)) := by
  cases there : w.hasWorkspace workspaceId with
  | false =>
    rw [updateColumn_of_absent there]
    exact ⟨fun _ never => absurd never Bool.false_ne_true, fun _ _ done => (Except.ok.inj done).symm⟩
  | true =>
    rw [updateColumn_of_present there, imp_iff_right rfl, ← withdraw_iff]
    cases done : withdraw keys (column workspaceId) with
    | error error => exact ⟨fun _ _ never => (by cases never), fun _ _ never => (by cases never)⟩
    | ok value =>
      constructor
      · rintro kept _ same
        cases same
        exact update_eq_self.mp (kept _ rfl)
      · rintro kept _ same
        cases same
        exact update_eq_self.mpr (kept _ rfl)

/-- What is withdrawn after an override is the column before, if this was an object without the
    keys. -/
theorem withdraw_override {new : Fields} (erased : ∀ field ∈ new, field.1 ∈ keys)
    (column : Option Json) :
    ∃ merged other, override new column = .ok merged ∧ withdraw keys merged = .ok other ∧
      (other = column ↔ (∃ fields, column = some (.obj fields)) ∧ Unmentioned keys column) := by
  obtain ⟨other, deleted, kept⟩ := Json.deleteKeys_concat erased (column.getD (.obj []))
  refine ⟨_, some other, rfl, by rw [withdraw, deleted]; rfl, ?_⟩
  cases column with
  | none =>
    constructor
    · intro never
      cases never
    · rintro ⟨⟨_, never⟩, -⟩
      cases never
  | some value =>
    rw [Option.getD_some] at kept
    rw [Option.some.injEq, kept]
    constructor
    · rintro ⟨⟨fields, rfl⟩, absent⟩
      refine ⟨⟨fields, rfl⟩, fun _ same => ?_⟩
      cases same
      exact absent
    · rintro ⟨⟨fields, same⟩, absent⟩
      exact ⟨⟨fields, Option.some.inj same⟩, absent value rfl⟩

/-! ## One reversal -/

/-- Nothing of what a reversal takes away is there. -/
def Untouched (env : ActionEnv) (w : ActionWorld) (workspaceId : Str) (detail : Json) :
    Remedy → Prop
  | .pauseApiKey => ∀ keyId, revertedTarget env detail = .ok keyId → ∀ row ∈ w.keys.apiKeys,
      row.named keyId workspaceId none = true → row.paused = false
  | .increaseBudget =>
    w.hasWorkspace workspaceId = true → Unmentioned cappedKeys (w.limitOverrides workspaceId)
  | .downgradeModel =>
    w.hasWorkspace workspaceId = true → Unmentioned downgradedKeys (w.routingOverrides workspaceId)

/-- The column that the remedy overrides is an object. -/
def OverridesObject (w : ActionWorld) (workspaceId : Str) : Remedy → Prop
  | .pauseApiKey => True
  | .increaseBudget => ∃ fields, w.limitOverrides workspaceId = some (.obj fields)
  | .downgradeModel => ∃ fields, w.routingOverrides workspaceId = some (.obj fields)

/-- The state after a branch, which is the state before where it is refused. -/
def ActionWorld.after (w : ActionWorld) : Except Refusal (ActionWorld × Bool) → ActionWorld
  | .error _ => w
  | .ok (w, _) => w

theorem setPaused_false_iff (w : ActionWorld) (where_ : ApiKeyRow → Bool) :
    (w.setPaused where_ false).1.governed = w.governed ↔
      ∀ row ∈ w.keys.apiKeys, where_ row = true → row.paused = false := by
  rw [setPaused_governed, ← pauseRows_false]
  exact ⟨congrArg Governed.apiKeys, fun same => by rw [same]; rfl⟩

/-- A reversal leaves the state if and only if it has nothing to take away. -/
theorem undoRemedy_iff (env : ActionEnv) (w : ActionWorld) (workspaceId : Str) (detail : Json)
    (remedy : Remedy) :
    (w.after (undoRemedy env w workspaceId detail remedy)).governed = w.governed ↔
      Untouched env w workspaceId detail remedy := by
  cases remedy with
  | pauseApiKey =>
    rw [undoRemedy, Untouched]
    cases target : revertedTarget env detail with
    | error refusal => exact ⟨fun _ _ never => (by cases never), fun _ => rfl⟩
    | ok keyId =>
      refine (setPaused_false_iff w _).trans ⟨fun active _ same => ?_, fun active => active _ rfl⟩
      cases same
      exact active
  | increaseBudget =>
    rw [undoRemedy, Untouched, ← updateColumn_withdraw_iff, ActionWorld.updateLimits]
    cases w.updateColumn w.limitOverrides workspaceId (withdraw cappedKeys) with
    | error error => exact ⟨fun _ _ never => (by cases never), fun _ => rfl⟩
    | ok column =>
      constructor
      · rintro same _ done
        cases done
        exact congrArg Governed.limitOverrides same
      · intro kept
        exact congrArg (fun column => { w.governed with limitOverrides := column }) (kept _ rfl)
  | downgradeModel =>
    rw [undoRemedy, Untouched, ← updateColumn_withdraw_iff, ActionWorld.updateRouting]
    cases w.updateColumn w.routingOverrides workspaceId (withdraw downgradedKeys) with
    | error error => exact ⟨fun _ _ never => (by cases never), fun _ => rfl⟩
    | ok column =>
      constructor
      · rintro same _ done
        cases done
        exact congrArg Governed.routingOverrides same
      · intro kept
        exact congrArg (fun column => { w.governed with routingOverrides := column }) (kept _ rfl)

/-! ## A remedy and its reversal -/

theorem revertedTarget_targetDetail (c : Char) (text : Str) :
    revertedTarget env (.obj (targetDetail (some (c :: text)))) =
      match env.uuid (c :: text) with
      | none => .error internalError
      | some keyId => .ok keyId := rfl

theorem handlePauseApiKey_ok {targetId : Option Str}
    (done : handlePauseApiKey env w workspaceId targetId = .ok (w', true)) :
    ∃ keyId, revertedTarget env (.obj (targetDetail targetId)) = .ok keyId ∧
      w' = (w.setPaused (fun row => row.named keyId workspaceId none && !row.revoked) true).1 := by
  cases targetId with
  | none => cases done
  | some text =>
    cases text with
    | nil => cases done
    | cons c text =>
      simp only [handlePauseApiKey] at done
      cases id : env.uuid (c :: text) with
      | none =>
        rw [id] at done
        cases done
      | some keyId =>
        rw [id] at done
        refine ⟨keyId, ?_, (congrArg Prod.fst (Except.ok.inj done)).symm⟩
        rw [revertedTarget_targetDetail, id]

theorem handleIncreaseBudget_ok (done : handleIncreaseBudget env w workspaceId = .ok (w', true)) :
    ∃ cap, w.updateLimits workspaceId (override [("monthly_request_cap", .int cap)]) =
      .ok (w', true) := by
  rw [handleIncreaseBudget] at done
  split at done
  · cases done
  · cases done
  · split at done
    · exact ⟨_, done⟩
    · cases done

/-- Resuming the rows after pausing some of them is resuming them. -/
theorem resumed_governed (w w' : ActionWorld) {where_ some_ : ApiKeyRow → Bool}
    (within : ∀ row, some_ row = true → where_ row = true)
    (steady : ∀ row paused, where_ { row with paused := paused } = where_ row)
    (paused : w'.governed = (w.setPaused some_ true).1.governed) :
    (w'.setPaused where_ false).1.governed = (w.setPaused where_ false).1.governed := by
  rw [setPaused_governed] at paused
  have rows : w'.keys.apiKeys = pauseRows some_ true w.keys.apiKeys :=
    congrArg Governed.apiKeys paused
  rw [setPaused_governed, setPaused_governed, rows, pauseRows_pauseRows true within steady, paused]

/-- What is left of a column that was overridden and then withdrawn from. -/
theorem withdrawn_column (w' : ActionWorld) {new : Fields} (erased : ∀ field ∈ new, field.1 ∈ keys)
    (there : w.hasWorkspace workspaceId = true)
    (done : w.updateColumn column workspaceId (override new) = .ok column')
    (same : w'.keys = w.keys) :
    ∃ left, w'.updateColumn column' workspaceId (withdraw keys) = .ok left ∧
      (left = column ↔ (∃ fields, column workspaceId = some (.obj fields)) ∧
        Unmentioned keys (column workspaceId)) := by
  obtain ⟨merged, other, overridden, deleted, kept⟩ :=
    withdraw_override erased (column workspaceId)
  rw [updateColumn_of_present there, overridden] at done
  have set : column' = Function.update column workspaceId merged := (Except.ok.inj done).symm
  subst set
  have there' : w'.hasWorkspace workspaceId = true := by
    rw [ActionWorld.hasWorkspace, same]
    exact there
  rw [updateColumn_of_present there', Function.update_self, deleted]
  refine ⟨Function.update column workspaceId other, congrArg Except.ok (Function.update_idem ..), ?_⟩
  rw [update_eq_self, kept]

/-- The state is restored where the column was an object, and nothing of the kind was there. -/
theorem undo_handle_iff {payload : ActionTokenPayload} {remedy : Remedy} (log : ActivityLog)
    (there : w.hasWorkspace payload.workspaceId = true)
    (done : handleRemedy env w payload remedy = .ok (w', true)) :
    (ActionWorld.after { w' with activity := log } (undoRemedy env { w' with activity := log }
        payload.workspaceId (.obj (targetDetail payload.targetId)) remedy)).governed = w.governed ↔
      OverridesObject w payload.workspaceId remedy ∧
        Untouched env w payload.workspaceId (.obj (targetDetail payload.targetId)) remedy := by
  cases remedy with
  | pauseApiKey =>
    obtain ⟨keyId, target, rfl⟩ := handlePauseApiKey_ok done
    rw [← undoRemedy_iff, OverridesObject, true_and, undoRemedy, undoRemedy, target]
    have within : ∀ row : ApiKeyRow, (row.named keyId payload.workspaceId none && !row.revoked) =
        true → row.named keyId payload.workspaceId none = true :=
      fun row named => (Bool.and_eq_true_iff.mp named).1
    exact Eq.congr_left (resumed_governed w { (w.setPaused _ true).1 with activity := log } within
      (fun _ _ => rfl) rfl)
  | increaseBudget =>
    obtain ⟨cap, updated⟩ := handleIncreaseBudget_ok done
    rw [ActionWorld.updateLimits] at updated
    cases set : w.updateColumn w.limitOverrides payload.workspaceId
        (override [("monthly_request_cap", .int cap)]) with
    | error error =>
      rw [set] at updated
      cases updated
    | ok column =>
      rw [set] at updated
      cases updated
      have erased : ∀ field ∈ [("monthly_request_cap".toList, Json.int cap)],
          field.1 ∈ cappedKeys := by
        simp [cappedKeys]
      obtain ⟨left, deleted, kept⟩ := withdrawn_column
        { w with limitOverrides := column, activity := log } erased there set rfl
      rw [undoRemedy, ActionWorld.updateLimits, deleted, OverridesObject, Untouched,
        imp_iff_right there, ← kept]
      exact ⟨congrArg Governed.limitOverrides,
        congrArg fun column => { w.governed with limitOverrides := column }⟩
  | downgradeModel =>
    have updated : w.updateRouting payload.workspaceId (override downgradedFields) =
      .ok (w', true) := done
    rw [ActionWorld.updateRouting] at updated
    cases set : w.updateColumn w.routingOverrides payload.workspaceId
        (override downgradedFields) with
    | error error =>
      rw [set] at updated
      cases updated
    | ok column =>
      rw [set] at updated
      cases updated
      have erased : ∀ field ∈ downgradedFields, field.1 ∈ downgradedKeys := by
        simp [downgradedKeys, downgradedFields]
      obtain ⟨left, deleted, kept⟩ := withdrawn_column
        { w with routingOverrides := column, activity := log } erased there set rfl
      rw [undoRemedy, ActionWorld.updateRouting, deleted, OverridesObject, Untouched,
        imp_iff_right there, ← kept]
      exact ⟨congrArg Governed.routingOverrides,
        congrArg fun column => { w.governed with routingOverrides := column }⟩

/-! ## Requests -/

/-- An execution that is answered and has logged an activity. -/
structure Executes (env : ActionEnv) (w : ActionWorld) (payload : ActionTokenPayload)
    (remedy : Remedy) (w' : ActionWorld) (activityId : Int) : Prop where
  remedy : executedRemedy payload.action = some remedy
  answered : ∃ token message, env.verifyActionToken token = some payload ∧
    executeAction env w (some token) = (w', .ok message)
  unused : w.activity.rows activityId = none
  logged : (w'.activity.rows activityId).isSome = true

/-- A reversal that may be asked for, of an activity of the workspace. -/
structure Names (w : ActionWorld) (token : TokenPayload) (originalActivityId : Str)
    (activityId : Int) (original : ActivityRow) : Prop where
  id : parseInt originalActivityId = some activityId
  row : w.activity.rows activityId = some original
  workspace : original.workspaceId = token.workspaceId

/-- The reversal is of the kind of the activity. -/
def KindMatches (activity action : Str) : Prop :=
  ∃ remedy : Remedy, activity = "action_".toList ++ remedy.action ∧ action = remedy.revertAction

/-- A reversal of the activity is in the log. -/
def AlreadyReverted (w : ActionWorld) (workspaceId : Str) (activityId : Int) : Prop :=
  ∃ id row, w.activity.rows id = some row ∧ row.workspaceId = workspaceId ∧
    row.detail = .obj [("reverted_id", .int activityId)]

theorem logActionActivity_eq (w : ActionWorld) (workspaceId action : Str) (detail : Fields) :
    ∃ log, logActionActivity w workspaceId action detail = { w with activity := log } ∧
      ∀ id, w.activity.rows id = none → (log.rows id).isSome = true →
        w.hasWorkspace workspaceId = true ∧
          log.rows id = some ⟨workspaceId, "action_".toList ++ action, .obj detail⟩ := by
  rw [logActionActivity]
  cases there : w.hasWorkspace workspaceId with
  | false =>
    refine ⟨w.activity, rfl, fun id unused logged => ?_⟩
    rw [unused] at logged
    cases logged
  | true =>
    refine ⟨_, rfl, fun id unused logged => ⟨rfl, ?_⟩⟩
    rw [ActivityLog.insert] at logged ⊢
    split at logged
    · next fits =>
      rw [dif_pos fits]
      by_cases here : id = w.activity.next
      · rw [here]
        exact Function.update_self ..
      · simp only [Function.update_of_ne here, unused] at logged
        cases logged
    · rw [unused] at logged
      cases logged

theorem revertAction_of_names {token : TokenPayload} {originalActivityId action : Str}
    {activityId : Int} {original : ActivityRow}
    (names : Names w token originalActivityId activityId original) :
    (revertAction env w token originalActivityId action).1.governed =
      if token.isAdmin then
        match revertedRemedy action with
        | none => w.governed
        | some remedy =>
          (w.after (undoRemedy env w token.workspaceId original.detail remedy)).governed
      else w.governed := by
  have fits : BigInt activityId := by
    apply w.activity.fits
    rw [names.row]
    rfl
  rw [revertAction]
  cases admin : token.isAdmin with
  | false => rfl
  | true =>
    simp only [names.id, names.row, fits, not_true_eq_false, if_false, Bool.not_true,
      Option.filter_some, names.workspace, decide_true, if_true]
    cases revertedRemedy action with
    | none => rfl
    | some remedy =>
      cases undone : undoRemedy env w token.workspaceId original.detail remedy with
      | error refusal =>
        simp only [undone]
        rfl
      | ok result =>
        obtain ⟨undoneWorld, success⟩ := result
        simp only [undone]
        cases success with
        | false => rfl
        | true =>
          obtain ⟨log, same, -⟩ := logActionActivity_eq undoneWorld token.workspaceId action
            [("reverted_id", .int activityId)]
          simp only [same]
          rfl

theorem executeAction_ok {token message : Str} {payload : ActionTokenPayload}
    (verified : env.verifyActionToken token = some payload)
    (done : executeAction env w (some token) = (w', .ok message)) :
    ∃ remedy handled, executedRemedy payload.action = some remedy ∧
      handleRemedy env { w with usedActionTokens := payload.jti :: w.usedActionTokens } payload
        remedy = .ok (handled, true) ∧
      w' = logActionActivity handled payload.workspaceId payload.action
        (targetDetail payload.targetId) := by
  cases token with
  | nil => cases done
  | cons c token =>
    simp only [executeAction, verified] at done
    split at done
    · cases done
    · split at done
      · cases done
      · next remedy found =>
        split at done
        · cases done
        · cases done
        · next handled answered =>
          exact ⟨remedy, handled, found, answered, (congrArg Prod.fst done).symm⟩

theorem setPaused_frame (w : ActionWorld) (where_ : ApiKeyRow → Bool) (paused : Bool) :
    (w.setPaused where_ paused).1.hasWorkspace = w.hasWorkspace ∧
      (w.setPaused where_ paused).1.activity = w.activity := by
  simp only [ActionWorld.setPaused, KeyWorld.updateKeys]
  split <;> exact ⟨rfl, rfl⟩

theorem handleRemedy_frame {payload : ActionTokenPayload} {remedy : Remedy}
    (done : handleRemedy env w payload remedy = .ok (w', true)) :
    w'.hasWorkspace = w.hasWorkspace ∧ w'.activity = w.activity := by
  have columns : ∀ {updated : Except PyError (Str → Option Json)}
      (f : (Str → Option Json) → ActionWorld),
      (∀ column, (f column).hasWorkspace = w.hasWorkspace ∧ (f column).activity = w.activity) →
      (updated.map fun column => (f column, true)) = .ok (w', true) →
        w'.hasWorkspace = w.hasWorkspace ∧ w'.activity = w.activity := by
    intro updated f frame set
    cases updated with
    | error error => cases set
    | ok column =>
      cases set
      exact frame column
  cases remedy with
  | pauseApiKey =>
    obtain ⟨keyId, -, rfl⟩ := handlePauseApiKey_ok done
    exact setPaused_frame w _ true
  | increaseBudget =>
    obtain ⟨cap, updated⟩ := handleIncreaseBudget_ok done
    exact columns (fun column => { w with limitOverrides := column }) (fun _ => ⟨rfl, rfl⟩) updated
  | downgradeModel =>
    exact columns (fun column => { w with routingOverrides := column }) (fun _ => ⟨rfl, rfl⟩) done

/-- The matching reversal of an execution restores the state if and only if the column was an object
    and nothing of the kind was there; a reversal of another kind, or of an activity that has been
    reverted, leaves it if and only if the reversal is refused or has nothing to take away. -/
theorem reversal_exact_iff (env : ActionEnv) (w : ActionWorld) :
    (∀ payload remedy w' activityId, Executes env w payload remedy w' activityId →
      ∀ admin originalActivityId, TokenPayload.isAdmin admin = true →
        admin.workspaceId = payload.workspaceId → parseInt originalActivityId = some activityId →
        ((revertAction env w' admin originalActivityId remedy.revertAction).1.governed = w.governed ↔
          OverridesObject w payload.workspaceId remedy ∧
            Untouched env w payload.workspaceId (.obj (targetDetail payload.targetId)) remedy)) ∧
    ∀ token originalActivityId activityId original action,
      Names w token originalActivityId activityId original →
      ¬ KindMatches original.action action ∨ AlreadyReverted w token.workspaceId activityId →
      ((revertAction env w token originalActivityId action).1.governed = w.governed ↔
        (token.isAdmin = true → ∀ remedy, revertedRemedy action = some remedy →
          Untouched env w token.workspaceId original.detail remedy)) := by
  constructor
  · intro payload remedy w' activityId executes admin text isAdmin sameWorkspace id
    obtain ⟨found, ⟨token, message, verified, done⟩, unused, logged⟩ := executes
    obtain ⟨remedy', handled, found', answered, rfl⟩ := executeAction_ok verified done
    rw [found] at found'
    cases found'
    obtain ⟨there, activity⟩ := handleRemedy_frame answered
    obtain ⟨log, same, inserted⟩ := logActionActivity_eq handled payload.workspaceId payload.action
      (targetDetail payload.targetId)
    rw [same] at logged ⊢
    rw [activity] at inserted
    obtain ⟨hasWorkspace, row⟩ := inserted activityId unused logged
    rw [there] at hasWorkspace
    rw [revertAction_of_names ⟨id, row, sameWorkspace.symm⟩, isAdmin, if_pos rfl,
      revertedRemedy_iff.mpr rfl, sameWorkspace]
    have restored := undo_handle_iff log hasWorkspace answered
    exact restored
  · intro token text activityId original action names _
    rw [revertAction_of_names names]
    cases admin : token.isAdmin with
    | false => exact ⟨fun _ never => absurd never Bool.false_ne_true, fun _ => rfl⟩
    | true =>
      rw [if_pos rfl, imp_iff_right rfl]
      cases revertedRemedy action with
      | none => exact ⟨fun _ _ never => (by cases never), fun _ => rfl⟩
      | some remedy =>
        refine (undoRemedy_iff env w _ _ remedy).trans ⟨fun untouched _ same => ?_, fun all => all _ rfl⟩
        cases same
        exact untouched

end

/-! ## Three workspaces -/

def sampleEnv : ActionEnv where
  verifyActionToken token :=
    if token = ("raise" : Str) then
      some { action := "increase_budget", workspaceId := "acme", jti := "1" }
    else if token = ("pause" : Str) then
      some { action := "pause_api_key", workspaceId := "acme", targetId := some "k", jti := "2" }
    else none
  planCaps plan := if plan = ("free" : Str) then some (some 10000) else none
  castInt
    | .int n => some n
    | _ => none
  uuid := some

def emptyLog : ActivityLog := { fits := fun _ never => by cases never }

/-- A workspace of the free plan with one key. -/
def sampleActions (limitOverrides : Option Json) : ActionWorld where
  keys := { now := 0, apiKeys := [⟨"k", "acme", "h", none, false, false⟩],
            workspaces := [⟨"acme", "free", true, none⟩] }
  limitOverrides _ := limitOverrides
  activity := emptyLog

def owner : TokenPayload := ⟨"acme", "u", "owner"⟩

/-- The override columns after raising the budget and reverting it. -/
def raisedAndReverted (limitOverrides : Option Json) : Option Json :=
  (revertAction sampleEnv (executeAction sampleEnv (sampleActions limitOverrides) (some "raise")).1
    owner "1" "revert_budget").1.limitOverrides "acme"

/-- NULL becomes an empty object, the cap of an operator is gone, and the reversal of a pause as a
    raised budget takes it away too. -/
theorem reversal_loses_overrides :
    raisedAndReverted none = some (.obj []) ∧
      raisedAndReverted (some (.obj [("monthly_request_cap", .int 500)])) = some (.obj []) ∧
        (revertAction sampleEnv (executeAction sampleEnv
            (sampleActions (some (.obj [("monthly_request_cap", .int 500)]))) (some "pause")).1
          owner "1" "revert_budget").1.limitOverrides "acme" = some (.obj []) := by
  refine ⟨rfl, rfl, rfl⟩

/-- The world after raising the budget of a workspace with an empty object of overrides. -/
def raisedFromEmpty : ActionWorld :=
  (executeAction sampleEnv (sampleActions (some (.obj []))) (some "raise")).1

theorem empty_object_restored :
    (revertAction sampleEnv raisedFromEmpty owner "1" "revert_budget").1.governed =
        (sampleActions (some (.obj []))).governed ∧
      (revertAction sampleEnv raisedFromEmpty owner "1" "revert_downgrade").1.governed =
        raisedFromEmpty.governed := by
  have number : parseInt "1" = some 1 := by decide +kernel
  constructor
  · have executes : Executes sampleEnv (sampleActions (some (.obj [])))
        { action := "increase_budget", workspaceId := "acme", jti := "1" } .increaseBudget
        raisedFromEmpty 1 :=
      ⟨rfl, ⟨"raise", executedMessage "increase_budget", rfl, rfl⟩, rfl, rfl⟩
    refine ((reversal_exact_iff sampleEnv _).1 _ _ _ 1 executes owner "1" rfl rfl number).mpr
      ⟨⟨[], rfl⟩, fun _ _ same _ _ => ?_⟩
    cases same
    rfl
  · have names : Names raisedFromEmpty owner "1" 1
        ⟨"acme", "action_increase_budget", .obj (targetDetail none)⟩ := ⟨number, rfl, rfl⟩
    have mismatch : ¬ KindMatches "action_increase_budget" "revert_downgrade" := by
      rintro ⟨remedy, activity, action⟩
      cases remedy with
      | pauseApiKey => exact absurd activity (by decide)
      | increaseBudget => exact absurd action (by decide)
      | downgradeModel => exact absurd activity (by decide)
    refine ((reversal_exact_iff sampleEnv _).2 owner "1" 1 _ "revert_downgrade" names
      (.inl mismatch)).mpr fun _ remedy same => ?_
    cases same
    intro _ _ never
    cases never

end BurnLens.Backend
