import BurnLens.Library.Fleet
import BurnLens.Library.Text
import Mathlib.Data.Rat.Floor

/-! # The TOTP second factor

`verify_totp`, `confirm_totp` and `disable_totp` of one user, cut into their statements.  What a
request computes between two statements it computes at once, from the row it has read and the
clock.  The log says what happened, the newest first.
-/

namespace BurnLens.Backend

open Library

def stepSeconds : ℚ := 30

def totpDigits : Nat := 6

def driftSteps : List Int := [-1, 0, 1]

def lockoutThreshold : Nat := 5

def lockoutSeconds : ℚ := 15 * 60

structure TotpServices where
  -- `str.isdigit` of one character
  isDigit : Char → Bool
  -- `pyotp.TOTP(secret).verify(code)` at a time within the step
  codeMatches : Str → Str → Int → Bool
  hashRecoveryCode : Str → Str

def currentStep (now : ℚ) : Int := ⌊now / stepSeconds⌋

/-- A code at or below the last step is a replay. -/
def unlessReplayed (minStep : Option Int) (step : Int) : Option Int :=
  match minStep with
  | some last => if step ≤ last then none else some step
  | none => some step

/-- `verify_code`: the step of the first offset whose code matches. -/
def verifyCode (services : TotpServices) (secret code : Str) (minStep : Option Int) (now : ℚ) :
    Option Int :=
  let code := (strip code).filter fun c => c ≠ ' '
  if !code.all services.isDigit || code.length ≠ totpDigits then none
  else
    let steps := driftSteps.map fun offset => currentStep (now + offset * stepSeconds)
    match steps.find? fun step => services.codeMatches secret code step with
    | some step => unlessReplayed minStep step
    | none => none

def isLockedOut (failedAttempts : Nat) : Bool := lockoutThreshold ≤ failedAttempts

/-- A row of `users`, as far as the second factor goes. -/
structure TotpUser where
  secret : Option Str := none
  -- `totp_confirmed_at` is set
  confirmed : Bool := false
  lastStep : Option Int := none
  failedAttempts : Nat := 0
  lockedUntil : Option ℚ := none
deriving DecidableEq

/-- `_is_locked`. -/
def TotpUser.locked (row : TotpUser) (now : ℚ) : Bool := row.lockedUntil.any fun u => now < u

inductive TotpLog where
  -- a code is compared, while the row has this lock
  | evaluated (lockedUntil : Option ℚ) (now : ℚ)
  | wrong
  | failed
  | locked (lockedUntil : ℚ)
  | accepted (step : Int)
  | recovered
deriving DecidableEq

structure TotpWorld where
  now : ℚ
  user : TotpUser
  -- `totp_recovery_codes`: the hash, and whether it is used
  codes : List (Str × Bool) := []
  log : List TotpLog := []

/-! ## Requests -/

inductive TotpRequest where
  | verify (challengeValid : Bool) (code : Str)
  -- with the recovery codes that are generated
  | confirm (code : Str) (recoveryCodes : List Str)
  | disable (passwordValid : Bool) (code : Str)

structure TotpReply where
  status : Nat
  detail : Str := []
deriving DecidableEq

def invalidCode : Str := "Invalid or expired verification code"

inductive TotpPhase where
  -- `_load_user_totp`
  | loading
  | deciding (row : TotpUser)
  -- `_clear_failures`
  | clearing (row : TotpUser) (step : Int)
  -- `_consume_recovery_code`
  | consuming (row : TotpUser)
  | recovering
  -- `_register_failure`
  | registering (attempts : Nat) (lockedUntil : Option ℚ) (reply : TotpReply)
  | confirming (row : TotpUser) (step : Int) (recoveryCodes : List Str)
  | disabling (row : TotpUser) (step : Int)
  | deleting (recoveryCodes : List Str)
  | inserting (recoveryCodes : List Str)
  -- `last_login`, and the session
  | touching
  | ended (reply : TotpReply)

/-- What `_register_failure` computes before its statement. -/
def registerFailure (now : ℚ) (row : TotpUser) (reply : TotpReply) : TotpPhase :=
  let attempts := row.failedAttempts + 1
  .registering attempts (if isLockedOut attempts then some (now + lockoutSeconds) else none) reply

def TotpWorld.write (w : TotpWorld) (user : TotpUser) (events : List TotpLog) : TotpWorld :=
  { w with user, log := events ++ w.log }

def TotpWorld.note (w : TotpWorld) (events : List TotpLog) : TotpWorld :=
  { w with log := events ++ w.log }

section

variable (services : TotpServices)

/-- From the row that was read to the next statement. -/
def TotpWorld.decide (w : TotpWorld) (row : TotpUser) : TotpRequest → TotpWorld × TotpPhase
  | .verify _ code =>
    if !row.confirmed then (w, .ended ⟨401, invalidCode⟩)
    else if row.locked w.now then (w, .ended ⟨429, "totp_locked"⟩)
    else
      match row.secret with
      | none => (w, .ended ⟨500, []⟩)
      | some secret =>
        let w' := w.note [.evaluated w.user.lockedUntil w.now]
        match verifyCode services secret code row.lastStep w.now with
        | some step => (w', .clearing row step)
        | none => (w', .consuming row)
  | .confirm code recoveryCodes =>
    match row.secret with
    | none => (w, .ended ⟨400, "totp_setup_not_started"⟩)
    | some secret =>
      if row.confirmed then (w, .ended ⟨409, "totp_already_enabled"⟩)
      else if row.locked w.now then (w, .ended ⟨429, "totp_locked"⟩)
      else
        let w' := w.note [.evaluated w.user.lockedUntil w.now]
        match verifyCode services secret code row.lastStep w.now with
        | some step => (w', .confirming row step recoveryCodes)
        | none => (w'.note [.wrong], registerFailure w.now row ⟨400, invalidCode⟩)
  | .disable passwordValid code =>
    if !row.confirmed then (w, .ended ⟨400, "totp_not_enabled"⟩)
    else if row.locked w.now then (w, .ended ⟨429, "totp_locked"⟩)
    else if !passwordValid then (w, registerFailure w.now row ⟨400, invalidCode⟩)
    else
      match row.secret with
      | none => (w, .ended ⟨500, []⟩)
      | some secret =>
        let w' := w.note [.evaluated w.user.lockedUntil w.now]
        match verifyCode services secret code row.lastStep w.now with
        | some step => (w', .disabling row step)
        | none => (w'.note [.wrong], registerFailure w.now row ⟨400, invalidCode⟩)

def TotpRequest.recoveryHash : TotpRequest → Str
  | .verify _ code => services.hashRecoveryCode code
  | _ => []

/-- `UPDATE users SET totp_failed_attempts = 0, totp_locked_until = NULL`. -/
def TotpUser.unlocked (user : TotpUser) : TotpUser :=
  { user with failedAttempts := 0, lockedUntil := none }

def TotpWorld.request (w : TotpWorld) (request : TotpRequest) :
    TotpPhase → Option (TotpWorld × TotpPhase)
  | .loading =>
    match request with
    | .verify false _ => some (w, .ended ⟨401, invalidCode⟩)
    | _ => some (w, .deciding w.user)
  | .deciding row => some (w.decide services row request)
  | .clearing _ step =>
    some (w.write { w.user.unlocked with lastStep := some step } [.accepted step], .touching)
  | .consuming row =>
    let code := request.recoveryHash services
    if w.codes.any fun c => c = (code, false) then
      some ({ w with codes := w.codes.map fun c => if c = (code, false) then (code, true) else c },
        .recovering)
    else some (w.note [.wrong], registerFailure w.now row ⟨401, invalidCode⟩)
  | .recovering => some (w.write w.user.unlocked [.recovered], .touching)
  | .registering attempts lockedUntil reply =>
    some (w.write { w.user with failedAttempts := attempts, lockedUntil }
      ((lockedUntil.map TotpLog.locked).toList ++ [TotpLog.failed]), .ended reply)
  | .confirming _ step recoveryCodes =>
    some (w.write { w.user.unlocked with confirmed := true, lastStep := some step }
      [.accepted step], .deleting recoveryCodes)
  | .disabling _ step => some (w.write {} [.accepted step], .deleting [])
  | .deleting recoveryCodes => some ({ w with codes := [] }, .inserting recoveryCodes)
  | .inserting (code :: recoveryCodes) =>
    some ({ w with codes := w.codes ++ [(services.hashRecoveryCode code, false)] },
      .inserting recoveryCodes)
  | .inserting [] => some (w, .ended ⟨200, []⟩)
  | .touching => some (w, .ended ⟨200, []⟩)
  | .ended _ => none

def TotpWorld.tick (w : TotpWorld) (time : ℚ) : TotpWorld := { w with now := max w.now time }

def totpRoutes : Routes TotpWorld TotpRequest TotpPhase ℚ where
  advance := TotpWorld.request services
  happen := TotpWorld.tick

abbrev TotpState := Fleet TotpWorld TotpRequest TotpPhase

abbrev TotpLabel := FleetLabel ℚ

def totpMachine : Machine TotpState TotpLabel := (totpRoutes services).machine

end

/-- Nothing has happened yet, and every request is about to begin. -/
structure TotpState.Fresh (s : TotpState) : Prop where
  log : s.world.log = []
  entering : ∀ request phase, (request, phase) ∈ s.calls → phase = .loading

/-! ## What a request decides -/

/-- A request that is about to accept a step, and the row it has read. -/
def TotpPhase.accepts : TotpPhase → Option (TotpUser × Int)
  | .clearing row step | .confirming row step _ | .disabling row step => some (row, step)
  | _ => none

def Below (floor : Option Int) (step : Int) : Prop := ∀ last ∈ floor, last < step

section

variable {services : TotpServices} {w : TotpWorld} {row : TotpUser} {request : TotpRequest}

/-- What can follow from the row that was read. -/
inductive Decided (w : TotpWorld) (row : TotpUser) : TotpWorld × TotpPhase → Prop where
  | refused (reply : TotpReply) : Decided w row (w, .ended reply)
  -- the password is wrong
  | failed (reply : TotpReply) (unlocked : row.locked w.now = false) :
    Decided w row (w, registerFailure w.now row reply)
  | passed {step : Int} {phase : TotpPhase} (unlocked : row.locked w.now = false)
    (above : Below row.lastStep step) (accepts : phase.accepts = some (row, step)) :
    Decided w row (w.note [.evaluated w.user.lockedUntil w.now], phase)
  | mistaken (unlocked : row.locked w.now = false) :
    Decided w row (w.note [.evaluated w.user.lockedUntil w.now], .consuming row)
  | wrong (reply : TotpReply) (unlocked : row.locked w.now = false) :
    Decided w row (w.note [.wrong, .evaluated w.user.lockedUntil w.now],
      registerFailure w.now row reply)

theorem verifyCode_below {secret code : Str} {minStep : Option Int} {now : ℚ} {step : Int}
    (verified : verifyCode services secret code minStep now = some step) : Below minStep step := by
  simp only [verifyCode] at verified
  split at verified
  · cases verified
  · split at verified
    · intro last its
      cases its
      simp only [unlessReplayed] at verified
      split at verified
      · cases verified
      · rename_i above
        cases verified
        omega
    · cases verified

theorem decide_decided : Decided w row (w.decide services row request) := by
  cases request with
  | verify challengeValid code =>
    simp only [TotpWorld.decide]
    split_ifs with unconfirmed locked
    · exact .refused _
    · exact .refused _
    · have unlocked : row.locked w.now = false := by simpa using locked
      split
      · exact .refused _
      · split
        · rename_i verified
          exact .passed unlocked (verifyCode_below verified) rfl
        · exact .mistaken unlocked
  | confirm code recoveryCodes =>
    simp only [TotpWorld.decide]
    split
    · exact .refused _
    · split_ifs with confirmed locked
      · exact .refused _
      · exact .refused _
      · have unlocked : row.locked w.now = false := by simpa using locked
        split
        · rename_i verified
          exact .passed unlocked (verifyCode_below verified) rfl
        · exact .wrong _ unlocked
  | disable passwordValid code =>
    simp only [TotpWorld.decide]
    split_ifs with unconfirmed locked password
    · exact .refused _
    · exact .refused _
    · exact .failed _ (by simpa using locked)
    · have unlocked : row.locked w.now = false := by simpa using locked
      split
      · exact .refused _
      · split
        · rename_i verified
          exact .passed unlocked (verifyCode_below verified) rfl
        · exact .wrong _ unlocked

end

end BurnLens.Backend
