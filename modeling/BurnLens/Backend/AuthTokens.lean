import BurnLens.Library.Fleet
import BurnLens.Library.Text
import Mathlib.Data.List.Nodup

/-! # Mailed links

Password resets and e-mail verifications, cut into their statements, while other code writes the
rows of `users` and `signup` issues tokens of its own.  The database and the process have each
their own clock, and neither need go forward.
-/

namespace BurnLens.Backend

open Library

/-! ## The tables -/

inductive TokenType where
  | passwordReset
  | emailVerification
deriving DecidableEq

structure AuthToken where
  userId : Str
  type : TokenType
  tokenHash : Str
  expiresAt : Int
  usedAt : Option Int := none

/-- A row of `users`, as far as mailed links go. -/
structure AuthUser where
  id : Str
  emailHash : Str
  emailEncrypted : Option Str
  passwordHash : Option Str := none
  emailVerifiedAt : Option Int := none

inductive AuthLog where
  | issued (row : AuthToken)
  | invalidated (type : TokenType) (userId : Str)
  -- a claim, and the user that `RETURNING` names
  | redeemed (type : TokenType) (tokenHash : Str) (now : Int) (answer : Option Str)
  -- the row of the user is written
  | applied (type : TokenType) (userId : Str)

structure TokenWorld where
  -- `now()`
  now : Int
  -- `datetime.now(timezone.utc)`
  clock : Int
  users : List AuthUser := []
  tokens : List AuthToken := []
  -- the newest first
  log : List AuthLog := []

def AuthToken.redeemable (row : AuthToken) (type : TokenType) (tokenHash : Str) (now : Int) : Bool :=
  row.tokenHash = tokenHash && row.type = type && row.usedAt.isNone && now < row.expiresAt

/-- `UPDATE auth_tokens SET used_at = now() WHERE …`. -/
def TokenWorld.use (w : TokenWorld) (where_ : AuthToken → Bool) : List AuthToken :=
  w.tokens.map fun row => if where_ row then { row with usedAt := some w.now } else row

def TokenWorld.select (w : TokenWorld) (type : TokenType) (tokenHash : Str) (now : Int) : Option AuthToken :=
  w.tokens.find? fun row => row.redeemable type tokenHash now

/-- The claim, with the user that it returns. -/
def TokenWorld.redeem (w : TokenWorld) (type : TokenType) (tokenHash : Str) : TokenWorld × Option Str :=
  let answer := (w.select type tokenHash w.now).map AuthToken.userId
  ({ w with
      tokens := w.use fun row => row.redeemable type tokenHash w.now
      log := .redeemed type tokenHash w.now answer :: w.log }, answer)

def AuthToken.pendingOf (row : AuthToken) (type : TokenType) (userId : Str) : Bool :=
  row.userId = userId && row.type = type && row.usedAt.isNone

def TokenWorld.invalidate (w : TokenWorld) (type : TokenType) (userId : Str) : TokenWorld :=
  { w with
    tokens := w.use fun row => row.pendingOf type userId
    log := .invalidated type userId :: w.log }

def TokenWorld.issue (w : TokenWorld) (userId : Str) (type : TokenType) (tokenHash : Str) (expiresAt : Int) :
    Option TokenWorld :=
  if w.tokens.any fun row => row.tokenHash = tokenHash then none
  else
    let row : AuthToken := { userId, type, tokenHash, expiresAt }
    some { w with tokens := row :: w.tokens, log := .issued row :: w.log }

def TokenWorld.updateUser (w : TokenWorld) (type : TokenType) (userId : Str) (set : AuthUser → AuthUser) :
    TokenWorld :=
  { w with
    users := w.users.map fun user => if user.id = userId then set user else user
    log := .applied type userId :: w.log }

/-! ## Requests -/

structure AuthServices where
  lookupHash : Str → Str
  -- what raises is `none`
  fernetDecrypt : Str → Option Str
  hashToken : Str → Str
  -- `bcrypt.hashpw`
  hashPassword : Str → Option Str

def AuthServices.decryptPii (services : AuthServices) (ciphertext : Str) : Option Str :=
  if ciphertext = [] then some []
  else if startsWith "v1:" ciphertext then services.fernetDecrypt (ciphertext.drop 3)
  else none

/-- Those that issue a token come with the one that is drawn. -/
inductive TokenRequest where
  | requestReset (email rawToken : Str)
  | confirmReset (token newPassword : Str)
  | verifyEmail (token : Str)
  -- of the user of the session
  | resendVerification (userId rawToken : Str)

def TokenRequest.type : TokenRequest → TokenType
  | .requestReset _ _ | .confirmReset _ _ => .passwordReset
  | .verifyEmail _ | .resendVerification _ _ => .emailVerification

/-- The token that a request issues or claims. -/
def TokenRequest.token : TokenRequest → Str
  | .requestReset _ token | .confirmReset token _ | .verifyEmail token | .resendVerification _ token => token

structure TokenReply where
  status : Nat
  message : Str

def serverError : TokenReply := ⟨500, "Internal Server Error"⟩

def TokenRequest.sent : TokenRequest → TokenReply
  | .requestReset _ _ => ⟨200, "If an account with that email exists, a reset link has been sent."⟩
  | .confirmReset _ _ => ⟨200, "Password updated successfully."⟩
  | .verifyEmail _ => ⟨200, "Email verified successfully."⟩
  | .resendVerification _ _ => ⟨200, "If applicable, a verification email has been sent."⟩

inductive TokenPhase where
  | entering
  | invalidating (userId : Str)
  | inserting (userId : Str) (expiresAt : Int)
  | claiming
  | settingPassword (userId hashed : Str)
  | verifying (userId : Str)
  -- the mail about the new password
  | notifying (userId : Str)
  | ended (reply : TokenReply)

def TokenType.lifetime : TokenType → Int
  | .passwordReset => 3600000000
  | .emailVerification => 24 * 3600000000

section

variable (services : AuthServices)

def TokenWorld.enter (w : TokenWorld) : TokenRequest → TokenPhase
  | .requestReset email token =>
    match w.users.find? fun user => user.emailHash = services.lookupHash (lower (strip email)) with
    | none => .ended (TokenRequest.requestReset email token).sent
    | some user =>
      if user.emailEncrypted.all fun email => (services.decryptPii email).isSome then .invalidating user.id
      else .ended serverError
  | .confirmReset _ newPassword =>
    if newPassword.length < 8 then .ended ⟨400, "Password must be at least 8 characters"⟩
    else if 128 < newPassword.length then .ended ⟨400, "Password too long (max 128 chars)"⟩
    else .claiming
  | .verifyEmail _ => .claiming
  | .resendVerification userId token =>
    match w.users.find? fun user => user.id = userId with
    | none => .ended (TokenRequest.resendVerification userId token).sent
    | some user =>
      if user.emailVerifiedAt.isNone &&
          user.emailEncrypted.any fun email => (services.decryptPii email).isSome then
        .invalidating user.id
      else .ended (TokenRequest.resendVerification userId token).sent

/-- From the claim of a reset to the statement that writes the password. -/
def resetClaimed (newPassword : Str) : Option Str → TokenPhase
  | none => .ended ⟨400, "Reset link is invalid or has expired."⟩
  | some userId =>
    match services.hashPassword newPassword with
    | some hashed => .settingPassword userId hashed
    | none => .ended serverError

def verificationClaimed : Option Str → TokenPhase
  | none => .ended ⟨400, "Verification link is invalid or has expired."⟩
  | some userId => .verifying userId

def TokenWorld.advance (w : TokenWorld) (request : TokenRequest) :
    TokenPhase → Option (TokenWorld × TokenPhase)
  | .entering => some (w, w.enter services request)
  | .invalidating userId =>
    some (w.invalidate request.type userId, .inserting userId (w.clock + request.type.lifetime))
  | .inserting userId expiresAt =>
    match w.issue userId request.type (services.hashToken request.token) expiresAt with
    | some w' => some (w', .ended request.sent)
    | none => some (w, .ended serverError)
  | .claiming =>
    match request with
    | .confirmReset token newPassword =>
      let (w', answer) := w.redeem .passwordReset (services.hashToken token)
      some (w', resetClaimed services newPassword answer)
    | .verifyEmail token =>
      let (w', answer) := w.redeem .emailVerification (services.hashToken token)
      some (w', verificationClaimed answer)
    | _ => none
  | .settingPassword userId hashed =>
    some (w.updateUser .passwordReset userId fun user => { user with passwordHash := some hashed },
      .notifying userId)
  | .verifying userId =>
    some (w.updateUser .emailVerification userId fun user => { user with emailVerifiedAt := some w.now },
      .ended request.sent)
  | .notifying userId =>
    match w.users.find? fun user => user.id = userId with
    | some user =>
      if user.emailEncrypted.all fun email => (services.decryptPii email).isSome then
        some (w, .ended request.sent)
      else some (w, .ended serverError)
    | none => some (w, .ended request.sent)
  | .ended _ => none

inductive TokenEvent where
  -- the clocks, and what other code leaves of `users`
  | meanwhile (now clock : Int) (users : List AuthUser)
  -- `signup` issues a token, unless the insert fails
  | signedUp (userId token : Str)

def TokenWorld.happen (w : TokenWorld) : TokenEvent → TokenWorld
  | .meanwhile now clock users => { w with now, clock, users }
  | .signedUp userId token =>
    (w.issue userId .emailVerification (services.hashToken token)
      (w.clock + TokenType.emailVerification.lifetime)).getD w

def tokenRoutes : Routes TokenWorld TokenRequest TokenPhase TokenEvent where
  advance := TokenWorld.advance services
  happen := TokenWorld.happen services

abbrev TokenState := Fleet TokenWorld TokenRequest TokenPhase

def tokenMachine : Machine TokenState (FleetLabel TokenEvent) := (tokenRoutes services).machine

end

/-- The user to whom a token would be redeemed at a time: of its last issue, unless it has expired, been
redeemed, or been invalidated since. -/
def holder (type : TokenType) (tokenHash : Str) (now : Int) : List AuthLog → Option Str
  | [] => none
  | .issued row :: earlier =>
    if row.type = type ∧ row.tokenHash = tokenHash then
      if now < row.expiresAt then some row.userId else none
    else holder type tokenHash now earlier
  | .invalidated type' userId :: earlier =>
    (holder type tokenHash now earlier).filter fun user => ¬ (type' = type ∧ userId = user)
  | .redeemed type' tokenHash' _ answer :: earlier =>
    if answer.isSome ∧ type' = type ∧ tokenHash' = tokenHash then none
    else holder type tokenHash now earlier
  | .applied _ _ :: earlier => holder type tokenHash now earlier

/-- Every claim is answered by the history in front of it. -/
def Answered (log : List AuthLog) : Prop :=
  ∀ later type tokenHash now answer earlier, log = later ++ .redeemed type tokenHash now answer :: earlier →
    answer = holder type tokenHash now earlier

/-- The type of a token, its user and its hash. -/
abbrev TokenKey := TokenType × Str × Str

def AuthToken.key (row : AuthToken) : TokenKey := (row.type, row.userId, row.tokenHash)

def issuedKeys (log : List AuthLog) : List TokenKey :=
  log.filterMap fun
    | .issued row => some row.key
    | _ => none

def redeemedKeys (log : List AuthLog) : List TokenKey :=
  log.filterMap fun
    | .redeemed type tokenHash _ (some userId) => some (type, userId, tokenHash)
    | _ => none

/-- How often the row of a user was written. -/
def appliedCount (type : TokenType) (userId : Str) (log : List AuthLog) : Nat :=
  log.countP fun
    | .applied type' userId' => type' = type ∧ userId' = userId
    | _ => false

def ofUser (type : TokenType) (userId : Str) (key : TokenKey) : Bool := key.1 = type && key.2.1 = userId

/-! ## The table -/

/-- The table and the history agree on what every claim would be answered. -/
structure Recorded (w : TokenWorld) : Prop where
  answered : Answered w.log
  held : ∀ type tokenHash now,
    (w.select type tokenHash now).map AuthToken.userId = holder type tokenHash now w.log
  unique : (w.tokens.map AuthToken.tokenHash).Nodup
  issued : issuedKeys w.log = w.tokens.map AuthToken.key
  once : (redeemedKeys w.log).Nodup
  used : ∀ key ∈ redeemedKeys w.log, ∃ row ∈ w.tokens, row.key = key ∧ row.usedAt.isSome = true

section

variable {w w' : TokenWorld} {type : TokenType} {tokenHash userId : Str} {now : Int} {row : AuthToken}
  {where_ : AuthToken → Bool}

theorem Answered.cons {log : List AuthLog} {entry : AuthLog} (answered : Answered log)
    (first : ∀ type tokenHash now answer, entry = .redeemed type tokenHash now answer →
      answer = holder type tokenHash now log) : Answered (entry :: log) := by
  intro later type tokenHash now answer earlier split
  cases later with
  | nil =>
    obtain ⟨rfl, rfl⟩ := List.cons.inj split
    exact first type tokenHash now answer rfl
  | cons newest later => exact answered later type tokenHash now answer earlier (List.cons.inj split).2

theorem redeemable_iff : row.redeemable type tokenHash now = true ↔
    row.tokenHash = tokenHash ∧ row.type = type ∧ row.usedAt = none ∧ now < row.expiresAt := by
  simp [AuthToken.redeemable, and_assoc]

theorem select_some (found : w.select type tokenHash now = some row) :
    row ∈ w.tokens ∧ row.tokenHash = tokenHash ∧ row.type = type ∧ row.usedAt = none ∧ now < row.expiresAt := by
  rw [TokenWorld.select] at found
  have redeemable := List.find?_some found
  exact ⟨List.mem_of_find?_eq_some found, redeemable_iff.mp redeemable⟩

/-- Where one element at most can be found, a further condition is one on what is found. -/
theorem find?_and {α β : Type} {key : α → β} {l : List α} {k : β} (unique : (l.map key).Nodup) {p : α → Bool}
    (only : ∀ a, p a = true → key a = k) (q : α → Bool) :
    l.find? (fun a => p a && q a) = (l.find? p).filter q := by
  induction l with
  | nil => rfl
  | cons a l inductionHypothesis =>
    obtain ⟨absent, rest⟩ := List.nodup_cons.mp unique
    rw [List.find?_cons, List.find?_cons]
    cases here : p a with
    | false => exact inductionHypothesis rest
    | true =>
      cases passes : q a with
      | true => simp [Option.filter, passes]
      | false =>
        have nowhere : l.find? (fun b => p b && q b) = none := by
          refine List.find?_eq_none.mpr fun b member both => ?_
          have other : p b = true := (Bool.and_eq_true_iff.mp both).1
          refine absent (List.mem_map.mpr ⟨b, member, ?_⟩)
          rw [only a here, only b other]
        simp [Option.filter, passes, nowhere]

theorem map_key_use : (w.use where_).map AuthToken.key = w.tokens.map AuthToken.key := by
  rw [TokenWorld.use, List.map_map]
  refine List.map_congr_left fun row _ => ?_
  show AuthToken.key (if where_ row then { row with usedAt := some w.now } else row) = row.key
  split <;> rfl

theorem map_tokenHash_use : (w.use where_).map AuthToken.tokenHash = w.tokens.map AuthToken.tokenHash := by
  have hashes : ∀ l : List AuthToken,
      l.map AuthToken.tokenHash = (l.map AuthToken.key).map fun key : TokenKey => key.2.2 := by simp [AuthToken.key]
  rw [hashes, map_key_use, ← hashes]

/-- What is used can no longer be redeemed, and what is not used stays as it was. -/
theorem select_use {log : List AuthLog} (unique : (w.tokens.map AuthToken.tokenHash).Nodup) (type : TokenType)
    (tokenHash : Str) (now : Int) :
    (TokenWorld.select { w with tokens := w.use where_, log } type tokenHash now).map AuthToken.userId =
      ((w.select type tokenHash now).filter fun row => !where_ row).map AuthToken.userId := by
  have only : ∀ row : AuthToken, row.redeemable type tokenHash now = true → row.tokenHash = tokenHash :=
    fun row redeemable => (redeemable_iff.mp redeemable).1
  rw [TokenWorld.select, TokenWorld.select, ← find?_and unique only, TokenWorld.use, List.find?_map,
    Option.map_map]
  have same : ∀ row : AuthToken,
      ((fun row : AuthToken => row.redeemable type tokenHash now) ∘
        fun row => if where_ row then { row with usedAt := some w.now } else row) row =
      (row.redeemable type tokenHash now && !where_ row) := by
    intro row
    cases chosen : where_ row <;> simp [chosen, AuthToken.redeemable]
  rw [funext same]
  refine Option.map_congr fun row _ => ?_
  show (if where_ row then { row with usedAt := some w.now } else row).userId = row.userId
  split <;> rfl

theorem used_use {key : TokenKey} (used : ∃ row ∈ w.tokens, row.key = key ∧ row.usedAt.isSome = true) :
    ∃ row ∈ w.use where_, row.key = key ∧ row.usedAt.isSome = true := by
  obtain ⟨row, member, its, spent⟩ := used
  refine ⟨_, List.mem_map_of_mem member, ?_⟩
  split
  · exact ⟨its, rfl⟩
  · exact ⟨its, spent⟩

/-! ## What a statement does to the table -/

theorem Recorded.same (recorded : Recorded w) {other : AuthToken} (member : row ∈ w.tokens)
    (there : other ∈ w.tokens) (hash : row.tokenHash = other.tokenHash) : row = other :=
  List.inj_on_of_nodup_map recorded.unique member there hash

theorem Recorded.start (tokens : w.tokens = []) (log : w.log = []) : Recorded w where
  answered later type tokenHash now answer earlier split := by simp [log] at split
  held type tokenHash now := by simp [TokenWorld.select, tokens, log, holder]
  unique := by simp [tokens]
  issued := by simp [tokens, log, issuedKeys]
  once := by simp [log, redeemedKeys]
  used := by simp [log, redeemedKeys]

theorem Recorded.invalidate (recorded : Recorded w) (type : TokenType) (userId : Str) :
    Recorded (w.invalidate type userId) where
  answered := recorded.answered.cons fun _ _ _ _ same => by cases same
  held type' tokenHash now := by
    refine (select_use recorded.unique ..).trans ?_
    show _ = (holder type' tokenHash now w.log).filter fun user => ¬ (type = type' ∧ userId = user)
    rw [← recorded.held]
    cases found : w.select type' tokenHash now with
    | none => rfl
    | some row =>
      obtain ⟨-, -, rfl, unused, -⟩ := select_some found
      have pending : row.pendingOf type userId = decide (type = row.type ∧ userId = row.userId) := by
        rw [Bool.eq_iff_iff]
        simp only [AuthToken.pendingOf, unused, Option.isNone_none, Bool.and_true, Bool.and_eq_true,
          decide_eq_true_eq]
        exact ⟨fun both => ⟨both.2.symm, both.1.symm⟩, fun both => ⟨both.2.symm, both.1.symm⟩⟩
      simp only [Option.filter_some, Option.map_some, pending, decide_not]
      split <;> rfl
  unique := by
    show ((w.use _).map _).Nodup
    rw [map_tokenHash_use]
    exact recorded.unique
  issued := recorded.issued.trans map_key_use.symm
  once := recorded.once
  used key member := used_use (recorded.used key member)

theorem Recorded.redeem (recorded : Recorded w) (type : TokenType) (tokenHash : Str) :
    Recorded (w.redeem type tokenHash).1 where
  answered := by
    refine recorded.answered.cons ?_
    intro type' tokenHash' now answer same
    cases same
    exact recorded.held type tokenHash w.now
  held type' tokenHash' now := by
    refine (select_use recorded.unique ..).trans ?_
    show _ = if ((w.select type tokenHash w.now).map AuthToken.userId).isSome ∧ type = type' ∧
      tokenHash = tokenHash' then none else holder type' tokenHash' now w.log
    rw [← recorded.held]
    cases found : w.select type' tokenHash' now with
    | none => simp
    | some row =>
      obtain ⟨member, rfl, rfl, -, -⟩ := select_some found
      by_cases hit : row.redeemable type tokenHash w.now = true
      · obtain ⟨hash, its, -⟩ := redeemable_iff.mp hit
        have claimed : (w.select type tokenHash w.now).isSome = true := List.find?_isSome.mpr ⟨row, member, hit⟩
        simp only [Option.filter_some, hit, Bool.not_true, Bool.false_eq_true, if_false, Option.map_none]
        exact (if_pos ⟨by rwa [Option.isSome_map], its.symm, hash.symm⟩).symm
      · simp only [Option.filter_some, Bool.not_eq_true _ ▸ hit, Bool.not_false, if_true]
        refine (if_neg ?_).symm
        intro ⟨claimed, its, hash⟩
        rw [Option.isSome_map] at claimed
        obtain ⟨other, found'⟩ := Option.isSome_iff_exists.mp claimed
        obtain ⟨there, hash', its', unused, fresh⟩ := select_some found'
        have one : other = row := recorded.same there member (hash'.trans hash)
        subst one
        exact hit (redeemable_iff.mpr ⟨hash', its', unused, fresh⟩)
  unique := by
    show ((w.use _).map _).Nodup
    rw [map_tokenHash_use]
    exact recorded.unique
  issued := recorded.issued.trans map_key_use.symm
  once := by
    rw [TokenWorld.redeem]
    cases found : w.select type tokenHash w.now with
    | none => exact recorded.once
    | some row =>
      obtain ⟨member, hash, -, unused, -⟩ := select_some found
      refine List.nodup_cons.mpr ⟨fun already => ?_, recorded.once⟩
      obtain ⟨other, there, key, spent⟩ := recorded.used _ already
      have hash' : other.tokenHash = tokenHash := congrArg (fun key : TokenKey => key.2.2) key
      have one : other = row := recorded.same there member (hash'.trans hash.symm)
      rw [one, unused] at spent
      cases spent
  used key claimed := by
    rw [TokenWorld.redeem] at claimed ⊢
    cases found : w.select type tokenHash w.now with
    | none =>
      rw [found] at claimed
      exact used_use (recorded.used key claimed)
    | some row =>
      rw [found] at claimed
      obtain ⟨member, hash, its, unused, fresh⟩ := select_some found
      obtain rfl | before := List.mem_cons.mp claimed
      · refine ⟨_, List.mem_map_of_mem member, ?_⟩
        rw [if_pos (redeemable_iff.mpr ⟨hash, its, unused, fresh⟩)]
        exact ⟨by simp [AuthToken.key, hash, its], rfl⟩
      · exact used_use (recorded.used key before)

theorem Recorded.issue {expiresAt : Int} (recorded : Recorded w)
    (issued : w.issue userId type tokenHash expiresAt = some w') : Recorded w' := by
  rw [TokenWorld.issue] at issued
  split at issued
  · cases issued
  · next free =>
    cases issued
    have absent : ∀ row ∈ w.tokens, row.tokenHash ≠ tokenHash := by simpa using free
    refine ⟨recorded.answered.cons fun _ _ _ _ same => (by cases same), ?_, ?_, ?_, recorded.once, ?_⟩
    · intro type' tokenHash' now
      have nowhere : w.select type' tokenHash now = none := by
        refine List.find?_eq_none.mpr fun row member redeemable => ?_
        exact absent row member (redeemable_iff.mp redeemable).1
      rw [TokenWorld.select, List.find?_cons, holder, ← recorded.held]
      by_cases same : type = type' ∧ tokenHash = tokenHash'
      · obtain ⟨rfl, rfl⟩ := same
        by_cases fresh : now < expiresAt
        · simp [AuthToken.redeemable, fresh]
        · simp only [AuthToken.redeemable, fresh, decide_false, Bool.and_false, and_self, if_true, if_false]
          exact congrArg _ nowhere
      · simp only [if_neg same]
        split
        · next redeemable =>
          obtain ⟨hash, its, -⟩ := redeemable_iff.mp redeemable
          exact absurd ⟨its, hash⟩ same
        · rfl
    · rw [List.map_cons, List.nodup_cons]
      refine ⟨fun taken => ?_, recorded.unique⟩
      obtain ⟨row, member, hash⟩ := List.mem_map.mp taken
      exact absent row member hash
    · exact congrArg _ recorded.issued
    · intro key claimed
      obtain ⟨row, member, its⟩ := recorded.used key claimed
      exact ⟨row, List.mem_cons_of_mem _ member, its⟩

theorem Recorded.of_eq (recorded : Recorded w) (tokens : w'.tokens = w.tokens) (log : w'.log = w.log) :
    Recorded w' := by
  obtain ⟨now, clock, users, tokens', log'⟩ := w'
  cases tokens
  cases log
  exact ⟨recorded.answered, recorded.held, recorded.unique, recorded.issued, recorded.once, recorded.used⟩

theorem Recorded.updateUser (recorded : Recorded w) (type : TokenType) (userId : Str) (set : AuthUser → AuthUser) :
    Recorded (w.updateUser type userId set) :=
  ⟨recorded.answered.cons fun _ _ _ _ same => (by cases same), recorded.held, recorded.unique,
    recorded.issued, recorded.once, recorded.used⟩

end

/-! ## What a call owes -/

/-- A claim that the row of the user does not show yet. -/
def TokenPhase.owes : TokenPhase → Option (TokenType × Str)
  | .settingPassword userId _ => some (.passwordReset, userId)
  | .verifying userId => some (.emailVerification, userId)
  | _ => none

/-- What a statement can do to the tokens and the history, and what its call owes before and after. -/
inductive TokenEffect (w : TokenWorld) (before after : Option (TokenType × Str)) : TokenWorld → Prop
  | quiet : after = none → TokenEffect w before after w
  | invalidated (type : TokenType) (userId : Str) : after = none →
      TokenEffect w before after (w.invalidate type userId)
  | issued (userId : Str) (type : TokenType) (tokenHash : Str) (expiresAt : Int) (w' : TokenWorld) :
      w.issue userId type tokenHash expiresAt = some w' → after = none → TokenEffect w before after w'
  | redeemed (type : TokenType) (tokenHash : Str) :
      (∀ owing ∈ after, ∃ userId, (w.redeem type tokenHash).2 = some userId ∧ owing = (type, userId)) →
      TokenEffect w before after (w.redeem type tokenHash).1
  | applied (type : TokenType) (userId : Str) (set : AuthUser → AuthUser) :
      before = some (type, userId) → after = none → TokenEffect w before after (w.updateUser type userId set)

section

variable {services : AuthServices} {w w' : TokenWorld} {request : TokenRequest} {phase next : TokenPhase}

theorem enter_owes : (w.enter services request).owes = none := by
  cases request with
  | verifyEmail token => rfl
  | confirmReset token newPassword =>
    rw [TokenWorld.enter]
    split
    · rfl
    · split <;> rfl
  | requestReset email token | resendVerification userId token =>
    rw [TokenWorld.enter]
    split
    · rfl
    · split <;> rfl

theorem resetClaimed_owes {newPassword : Str} {answer : Option Str} {owing : TokenType × Str}
    (owes : owing ∈ (resetClaimed services newPassword answer).owes) :
    ∃ userId, answer = some userId ∧ owing = (.passwordReset, userId) := by
  cases answer with
  | none => cases owes
  | some userId =>
    rw [resetClaimed] at owes
    split at owes
    · cases owes
      exact ⟨userId, rfl, rfl⟩
    · cases owes

theorem verificationClaimed_owes {answer : Option Str} {owing : TokenType × Str}
    (owes : owing ∈ (verificationClaimed answer).owes) :
    ∃ userId, answer = some userId ∧ owing = (.emailVerification, userId) := by
  cases answer with
  | none => cases owes
  | some userId =>
    cases owes
    exact ⟨userId, rfl, rfl⟩

theorem advance_effect (went : w.advance services request phase = some (w', next)) :
    TokenEffect w phase.owes next.owes w' := by
  cases phase with
  | entering =>
    cases went
    exact .quiet enter_owes
  | invalidating userId =>
    cases went
    exact .invalidated _ userId rfl
  | inserting userId expiresAt =>
    simp only [TokenWorld.advance] at went
    split at went
    · next issued =>
      cases went
      exact .issued _ _ _ _ _ issued rfl
    · cases went
      exact .quiet rfl
  | claiming =>
    cases request with
    | confirmReset token newPassword =>
      cases went
      exact .redeemed _ _ fun _ owes => resetClaimed_owes owes
    | verifyEmail token =>
      cases went
      exact .redeemed _ _ fun _ owes => verificationClaimed_owes owes
    | requestReset email token => cases went
    | resendVerification userId token => cases went
  | settingPassword userId hashed =>
    cases went
    exact .applied _ userId _ rfl rfl
  | verifying userId =>
    cases went
    exact .applied _ userId _ rfl rfl
  | notifying userId =>
    simp only [TokenWorld.advance] at went
    split at went
    · split at went <;> cases went <;> exact .quiet rfl
    · cases went
      exact .quiet rfl
  | ended reply => cases went

theorem TokenEffect.recorded {before after : Option (TokenType × Str)} (effect : TokenEffect w before after w')
    (recorded : Recorded w) : Recorded w' := by
  cases effect with
  | quiet => exact recorded
  | invalidated type userId => exact recorded.invalidate type userId
  | issued userId type tokenHash expiresAt w' issued => exact recorded.issue issued
  | redeemed type tokenHash => exact recorded.redeem type tokenHash
  | applied type userId set => exact recorded.updateUser type userId set

/-- What a statement writes and leaves owing was owing before, or is claimed. -/
theorem TokenEffect.balance {before after : Option (TokenType × Str)} (effect : TokenEffect w before after w')
    (type : TokenType) (userId : Str) :
    appliedCount type userId w'.log + (if after = some (type, userId) then 1 else 0) +
        (redeemedKeys w.log).countP (ofUser type userId) ≤
      appliedCount type userId w.log + (if before = some (type, userId) then 1 else 0) +
        (redeemedKeys w'.log).countP (ofUser type userId) := by
  cases effect with
  | quiet owes =>
    subst owes
    simp
  | invalidated type' userId' owes =>
    subst owes
    show appliedCount type userId w.log + 0 + (redeemedKeys w.log).countP _ ≤ _ + _ + (redeemedKeys w.log).countP _
    omega
  | issued userId' type' tokenHash expiresAt w' issued owes =>
    subst owes
    rw [TokenWorld.issue] at issued
    split at issued
    · cases issued
    · cases issued
      show appliedCount type userId w.log + 0 + (redeemedKeys w.log).countP _ ≤ _ + _ + (redeemedKeys w.log).countP _
      omega
  | redeemed type' tokenHash owes =>
    show appliedCount type userId w.log + _ + _ ≤ appliedCount type userId w.log + _ + _
    rw [TokenWorld.redeem] at owes ⊢
    cases answer : (w.select type' tokenHash w.now).map AuthToken.userId with
    | none =>
      rw [answer] at owes
      cases after with
      | none =>
        show _ + 0 + (redeemedKeys w.log).countP _ ≤ _ + _ + (redeemedKeys w.log).countP _
        omega
      | some owing =>
        obtain ⟨_, claimed, -⟩ := owes owing rfl
        cases claimed
    | some user =>
      rw [answer] at owes
      show _ + _ + _ ≤ _ + _ + ((type', user, tokenHash) :: redeemedKeys w.log).countP _
      rw [List.countP_cons]
      cases after with
      | none =>
        simp only [reduceCtorEq, if_false]
        omega
      | some owing =>
        obtain ⟨_, claimed, rfl⟩ := owes owing rfl
        cases claimed
        have same : ofUser type userId (type', user, tokenHash) = true ↔ some (type', user) = some (type, userId) := by
          simp [ofUser]
        simp only [same]
        omega
  | applied type' userId' set owed owes =>
    subst owed owes
    show (AuthLog.applied type' userId' :: w.log).countP _ + 0 + (redeemedKeys w.log).countP _ ≤
      w.log.countP _ + _ + (redeemedKeys w.log).countP _
    rw [List.countP_cons]
    simp only [decide_eq_true_eq, Option.some.injEq, Prod.mk.injEq]
    omega

/-! ## Runs -/

def claimOwed (type : TokenType) (userId : Str) (_ : TokenRequest) (phase : TokenPhase) : Nat :=
  if phase.owes = some (type, userId) then 1 else 0

structure TokenInvariant (s : TokenState) : Prop where
  recorded : Recorded s.world
  owing : ∀ type userId, appliedCount type userId s.world.log + total (claimOwed type userId) s.calls ≤
    (redeemedKeys s.world.log).countP (ofUser type userId)

theorem TokenInvariant.advance {s : TokenState} {k : Nat} (invariant : TokenInvariant s)
    (found : s.calls[k]? = some (request, phase))
    (went : s.world.advance services request phase = some (w', next)) :
    TokenInvariant ⟨w', s.calls.set k (request, next)⟩ := by
  have effect := advance_effect went
  refine ⟨effect.recorded invariant.recorded, fun type userId => ?_⟩
  have balance := effect.balance type userId
  have moved := total_set (claimOwed type userId) found next
  have before := invariant.owing type userId
  show appliedCount type userId w'.log + total (claimOwed type userId) (s.calls.set k (request, next)) ≤ _
  simp only [claimOwed] at moved before ⊢
  omega

theorem TokenInvariant.happen {s : TokenState} (invariant : TokenInvariant s) (event : TokenEvent) :
    TokenInvariant { s with world := s.world.happen services event } := by
  cases event with
  | meanwhile now clock users => exact ⟨invariant.recorded.of_eq rfl rfl, invariant.owing⟩
  | signedUp userId token =>
    rw [TokenWorld.happen]
    cases issued : s.world.issue userId .emailVerification (services.hashToken token)
        (s.world.clock + TokenType.emailVerification.lifetime) with
    | none => exact invariant
    | some w' =>
      have effect : TokenEffect s.world none none w' := .issued _ _ _ _ _ issued rfl
      refine ⟨effect.recorded invariant.recorded, fun type userId => ?_⟩
      have balance := effect.balance type userId
      have before := invariant.owing type userId
      show appliedCount type userId w'.log + total (claimOwed type userId) s.calls ≤
        (redeemedKeys w'.log).countP (ofUser type userId)
      simp only [reduceCtorEq, if_false] at balance
      omega

end

/-- No token has been issued, and every request is about to begin. -/
structure TokenState.Fresh (s : TokenState) : Prop where
  tokens : s.world.tokens = []
  log : s.world.log = []
  entering : ∀ request phase, (request, phase) ∈ s.calls → phase = .entering

theorem TokenInvariant.fresh {s : TokenState} (fresh : s.Fresh) : TokenInvariant s := by
  refine ⟨.start fresh.tokens fresh.log, fun type userId => ?_⟩
  have nothing : total (claimOwed type userId) s.calls = 0 :=
    total_eq_zero fun request phase member => by rw [fresh.entering request phase member]; rfl
  rw [nothing, fresh.log]
  rfl

/-- A mailed link works once, for its user and its purpose.  Whatever the order of the statements, a
claim is answered as the history says: by the user the token was issued to, as long as it has not expired,
been redeemed, or been invalidated by a newer request.  No token is redeemed twice, every password that is
set and every address that is verified has a redeemed token of its own, and so has a link issued for it. -/
theorem mailed_links_single_use (services : AuthServices) (s s' : TokenState)
    (labels : List (FleetLabel TokenEvent)) (fresh : s.Fresh)
    (ran : (tokenMachine services).run s labels = some s') :
    Answered s'.world.log ∧
    ((redeemedKeys s'.world.log).map fun key => key.2.2).Nodup ∧
    ∀ type userId,
      appliedCount type userId s'.world.log ≤ (redeemedKeys s'.world.log).countP (ofUser type userId) ∧
      (redeemedKeys s'.world.log).countP (ofUser type userId) ≤
        (issuedKeys s'.world.log).countP (ofUser type userId) := by
  have invariant : TokenInvariant s' := by
    refine Routes.run_invariant ?_ (fun _ event invariant => invariant.happen event) (.fresh fresh) ran
    exact fun _ _ _ _ _ _ invariant found went => invariant.advance found went
  obtain ⟨recorded, owing⟩ := invariant
  refine ⟨recorded.answered, ?_, fun type userId => ⟨?_, ?_⟩⟩
  · refine List.Nodup.map_on ?_ recorded.once
    intro key member other there hash
    obtain ⟨row, inside, rfl, -⟩ := recorded.used key member
    obtain ⟨row', inside', rfl, -⟩ := recorded.used other there
    rw [recorded.same inside inside' hash]
  · have total_ := owing type userId
    omega
  · refine List.Subperm.countP_le _ (List.subperm_of_subset recorded.once ?_)
    intro key member
    obtain ⟨row, inside, rfl, -⟩ := recorded.used key member
    rw [recorded.issued]
    exact List.mem_map_of_mem inside

def someUser : AuthUser := ⟨"u", "e", some [], none, none⟩

/-- Two requests for a reset at once, and a link of theirs that is used twice. -/
def twoResets : TokenState where
  world := { now := 0, clock := 0, users := [someUser] }
  calls := [(.requestReset "e" "t", .entering), (.requestReset "E " "t'", .entering),
    (.confirmReset "t'" "password", .entering), (.confirmReset "t'" "another password", .entering)]

def identity : AuthServices := ⟨id, some, id, some⟩

/-- The links are issued at once, and redeemed at once. -/
def resetLabels : List (FleetLabel TokenEvent) :=
  List.flatten [List.flatten (List.replicate 3 [.advance 0, .advance 1]),
    [.happen (.meanwhile 7 7 [someUser])], List.flatten (List.replicate 2 [.advance 2, .advance 3]),
    [.advance 2, .advance 2]]

def afterResets : TokenState :=
  ((tokenMachine identity).run twoResets resetLabels).get (by decide)

theorem mailed_links_of_two_resets :
    Answered afterResets.world.log ∧
    ((redeemedKeys afterResets.world.log).map fun key => key.2.2).Nodup ∧
    ∀ type userId,
      appliedCount type userId afterResets.world.log ≤
        (redeemedKeys afterResets.world.log).countP (ofUser type userId) ∧
      (redeemedKeys afterResets.world.log).countP (ofUser type userId) ≤
        (issuedKeys afterResets.world.log).countP (ofUser type userId) :=
  mailed_links_single_use identity twoResets afterResets resetLabels
    ⟨rfl, rfl, fun request phase member => by
      have entering : twoResets.calls.all fun c => match c.2 with | .entering => true | _ => false := by decide
      have its := List.all_eq_true.mp entering (request, phase) member
      cases phase <;> first | rfl | cases its⟩
    (Option.some_get _).symm

end BurnLens.Backend
