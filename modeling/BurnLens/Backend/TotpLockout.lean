import BurnLens.Backend.Totp

/-! # The lockout

The number of failures is read in one statement and written back, one higher, in a later one,
with a lock or without.  Where the requests that compare codes do so one at a time, from a row
that is still as they read it, the lock holds.
-/

namespace BurnLens.Backend

open Library

/-- The wrong codes since the last success or lock. -/
def guesses : List TotpLog → Nat
  | [] => 0
  | .wrong :: log => guesses log + 1
  | .locked _ :: _ | .accepted _ :: _ | .recovered :: _ => 0
  | .evaluated _ _ :: log | .failed :: log => guesses log

/-- The failures counted since the last success. -/
def failures : List TotpLog → Nat
  | [] => 0
  | .failed :: log => failures log + 1
  | .accepted _ :: _ | .recovered :: _ => 0
  | .evaluated _ _ :: log | .wrong :: log | .locked _ :: log => failures log

structure LockoutHolds (w : TotpWorld) : Prop where
  -- no more wrong codes than the threshold before a lock
  bounded : guesses w.log ≤ lockoutThreshold
  -- a lock stays in force until its expiry
  inForce : ∀ u, .locked u ∈ w.log → w.now < u → ∃ u' ∈ w.user.lockedUntil, u ≤ u'
  -- no failure is forgotten
  counted : failures w.log ≤ w.user.failedAttempts
  -- no code is compared while a lock is in force
  unlocked : ∀ lockedUntil now, .evaluated lockedUntil now ∈ w.log → ∀ u ∈ lockedUntil, u ≤ now

/-- Between the comparison of a code and the statement that records its outcome. -/
def TotpPhase.comparing : TotpPhase → Bool
  | .clearing _ _ | .consuming _ | .recovering | .registering _ _ _ | .confirming _ _ _
  | .disabling _ _ => true
  | _ => false

def TotpPhase.decidesFrom : TotpPhase → Option TotpUser
  | .deciding row => some row
  | _ => none

section

variable (services : TotpServices)

/-- A request compares a code only where no other does, and from a row whose failures and lock
    are still stored. -/
def comparesAlone (s : TotpState) : TotpLabel → Prop
  | .advance k => ∀ c ∈ s.calls[k]?, ∀ row ∈ c.2.decidesFrom,
      (s.world.decide services row c.1).2.comparing = true →
        s.world.user.failedAttempts = row.failedAttempts ∧
          s.world.user.lockedUntil = row.lockedUntil ∧ ∀ c' ∈ s.calls, c'.2.comparing = false
  | .happen _ => True

instance (s : TotpState) : (l : TotpLabel) → Decidable (comparesAlone services s l)
  | .advance k => inferInstanceAs (Decidable (∀ c ∈ s.calls[k]?, ∀ row ∈ c.2.decidesFrom,
      (s.world.decide services row c.1).2.comparing = true →
        s.world.user.failedAttempts = row.failedAttempts ∧
          s.world.user.lockedUntil = row.lockedUntil ∧ ∀ c' ∈ s.calls, c'.2.comparing = false))
  | .happen _ => inferInstanceAs (Decidable True)

end

/-! ## The invariant -/

/-- No lock of the log is in force any more. -/
def Expired (w : TotpWorld) : Prop := ∀ u, .locked u ∈ w.log → u ≤ w.now

/-- Where no wrong code waits to be counted. -/
def Counted (w : TotpWorld) : Prop :=
  guesses w.log = 0 ∨
    (guesses w.log ≤ w.user.failedAttempts ∧ w.user.failedAttempts < lockoutThreshold)

/-- What is known of a request while it compares a code: the failures and the lock of the row
    are still as it has read them. -/
def TotpPhase.Known (w : TotpWorld) (_ : TotpRequest) : TotpPhase → Prop
  | .consuming row => Expired w ∧ Counted w ∧ row.failedAttempts = w.user.failedAttempts
  | .registering attempts lockedUntil _ => Expired w ∧
      attempts = w.user.failedAttempts + 1 ∧
      guesses w.log ≤ attempts ∧ guesses w.log ≤ lockoutThreshold ∧
      (lockoutThreshold ≤ attempts → lockedUntil.isSome)
  | .clearing _ _ | .recovering | .confirming _ _ _ | .disabling _ _ => Expired w ∧ Counted w
  | _ => True

def busy (_ : TotpRequest) (phase : TotpPhase) : Nat := if phase.comparing then 1 else 0

structure LockoutInvariant (s : TotpState) : Prop where
  holds : LockoutHolds s.world
  one : total busy s.calls ≤ 1
  idle : total busy s.calls = 0 → Counted s.world
  known : s.Each TotpPhase.Known

section

variable {services : TotpServices} {s : TotpState} {w : TotpWorld} {k : Nat}
  {request : TotpRequest} {phase next : TotpPhase}

theorem LockoutInvariant.alone (invariant : LockoutInvariant s)
    (found : s.calls[k]? = some (request, phase)) (comparing : phase.comparing = true) {j : Nat}
    {other : TotpRequest} {phase' : TotpPhase} (apart : j ≠ k)
    (there : s.calls[j]? = some (other, phase')) : phase'.comparing = false := by
  have both := add_le_total busy found there apart
  have one := invariant.one
  rw [busy, comparing, if_pos rfl] at both
  cases comparing' : phase'.comparing with
  | false => rfl
  | true =>
    rw [busy, comparing', if_pos rfl] at both
    omega

theorem known_of_idle (idle : phase.comparing = false) : phase.Known w request := by
  cases phase with
  | clearing | consuming | recovering | registering | confirming | disabling => cases idle
  | loading | deciding | deleting | inserting | touching | ended => trivial

/-- Where the failures, the lock and the log stay as they are, and the clock may go on. -/
theorem TotpPhase.Known.later {w' : TotpWorld} (known : phase.Known w request)
    (log : w'.log = w.log) (attempts : w'.user.failedAttempts = w.user.failedAttempts)
    (time : w.now ≤ w'.now) : phase.Known w' request := by
  have expired : Expired w → Expired w' := fun expired u logged =>
    (expired u (log ▸ logged)).trans time
  have counted : Counted w → Counted w' := by
    rw [Counted, Counted, log, attempts]
    exact id
  cases phase with
  | consuming row => exact ⟨expired known.1, counted known.2.1, known.2.2.trans attempts.symm⟩
  | registering count lockedUntil reply =>
    rw [TotpPhase.Known, log, attempts]
    exact ⟨expired known.1, known.2⟩
  | clearing | recovering | confirming | disabling => exact ⟨expired known.1, counted known.2⟩
  | loading | deciding | deleting | inserting | touching | ended => trivial

theorem LockoutHolds.later {w' : TotpWorld} (holds : LockoutHolds w) (log : w'.log = w.log)
    (user : w'.user = w.user) (time : w.now ≤ w'.now) : LockoutHolds w' := by
  obtain ⟨bounded, inForce, counted, unlocked⟩ := holds
  constructor
  · rwa [log]
  · intro u logged
    rw [log] at logged
    rw [user]
    exact fun early => inForce u logged (lt_of_le_of_lt time early)
  · rwa [log, user]
  · rwa [log]

/-- A step of the only request that compares a code, or of one that begins to. -/
theorem LockoutInvariant.solo {w' : TotpWorld} (found : s.calls[k]? = some (request, phase))
    (alone : ∀ j other phase', j ≠ k → s.calls[j]? = some (other, phase') →
      phase'.comparing = false)
    (holds : LockoutHolds w') (known : next.Known w' request)
    (counted : next.comparing = false → Counted w') :
    LockoutInvariant ⟨w', s.calls.set k (request, next)⟩ := by
  have whole : total busy (s.calls.set k (request, next)) = busy request next := by
    obtain ⟨inside, _⟩ := List.getElem?_eq_some_iff.mp found
    apply total_alone (List.getElem?_set_self inside)
    intro j other phase' apart there
    rw [List.getElem?_set_ne (Ne.symm apart)] at there
    rw [busy, alone j other phase' apart there]
    rfl
  refine ⟨holds, ?_, fun idle => ?_, .set known fun j other phase' apart there =>
    known_of_idle (alone j other phase' apart there)⟩
  · show total busy (s.calls.set k (request, next)) ≤ 1
    rw [whole, busy]
    split <;> omega
  · have idle : total busy (s.calls.set k (request, next)) = 0 := idle
    rw [whole, busy] at idle
    split at idle
    · cases idle
    · rename_i quiet
      exact counted (by simpa using quiet)

/-- A step that compares no code and changes neither the row nor the log. -/
theorem LockoutInvariant.idle_step {w' : TotpWorld} (invariant : LockoutInvariant s)
    (found : s.calls[k]? = some (request, phase)) (before : phase.comparing = false)
    (after : next.comparing = false) (log : w'.log = s.world.log) (user : w'.user = s.world.user)
    (time : w'.now = s.world.now) :
    LockoutInvariant ⟨w', s.calls.set k (request, next)⟩ := by
  have same : total busy (s.calls.set k (request, next)) = total busy s.calls := by
    have moved := total_set busy found next
    rw [busy, busy, before, after] at moved
    exact add_right_cancel moved
  refine ⟨invariant.holds.later log user time.ge, same.le.trans invariant.one, fun idle => ?_,
    .set (known_of_idle after) fun j other phase' apart there =>
      (invariant.known.at there).later log (by rw [user]) time.ge⟩
  have counted := invariant.idle (same.symm.trans idle)
  rw [Counted] at counted ⊢
  rwa [log, user]

theorem expired_of_unlocked (holds : LockoutHolds w) (unlocked : w.user.locked w.now = false) :
    Expired w := by
  intro u logged
  by_contra early
  obtain ⟨u', stored, later⟩ := holds.inForce u logged (not_le.mp early)
  have inForce : w.user.locked w.now = true := by
    rw [TotpUser.locked, Option.any_eq_true]
    exact ⟨u', stored, decide_eq_true (lt_of_lt_of_le (not_le.mp early) later)⟩
  rw [unlocked] at inForce
  cases inForce

/-! ## One statement -/

theorem registerFailure_known {row : TotpUser} {now : ℚ} {reply : TotpReply}
    (expired : Expired w) (same : row.failedAttempts = w.user.failedAttempts)
    (counted : guesses w.log ≤ w.user.failedAttempts + 1)
    (bounded : guesses w.log ≤ lockoutThreshold) :
    (registerFailure now row reply).Known w request := by
  refine ⟨expired, by rw [same], by rwa [same], bounded, fun exceeded => ?_⟩
  have out : isLockedOut (row.failedAttempts + 1) = true := decide_eq_true exceeded
  rw [if_pos out]
  rfl

theorem Counted.wrong (counted : Counted w) :
    guesses w.log + 1 ≤ w.user.failedAttempts + 1 ∧ guesses w.log + 1 ≤ lockoutThreshold := by
  have positive : 1 ≤ lockoutThreshold := by decide
  obtain none | ⟨some, below⟩ := counted <;> omega

theorem LockoutHolds.evaluate (holds : LockoutHolds w) (unlocked : w.user.locked w.now = false) :
    LockoutHolds (w.note [.evaluated w.user.lockedUntil w.now]) := by
  refine ⟨holds.bounded, fun u logged => ?_, holds.counted, fun lockedUntil now logged => ?_⟩
  · obtain new | before := List.mem_cons.mp logged
    · cases new
    · exact holds.inForce u before
  · obtain new | before := List.mem_cons.mp logged
    · cases new
      intro u stored
      by_contra early
      have inForce : w.user.locked w.now = true := by
        rw [TotpUser.locked, Option.any_eq_true]
        exact ⟨u, stored, decide_eq_true (not_le.mp early)⟩
      rw [unlocked] at inForce
      cases inForce
    · exact holds.unlocked lockedUntil now before

theorem LockoutHolds.wrong (holds : LockoutHolds w)
    (bounded : guesses w.log + 1 ≤ lockoutThreshold) : LockoutHolds (w.note [.wrong]) := by
  refine ⟨bounded, fun u logged => ?_, holds.counted, fun lockedUntil now logged => ?_⟩
  · obtain new | before := List.mem_cons.mp logged
    · cases new
    · exact holds.inForce u before
  · obtain new | before := List.mem_cons.mp logged
    · cases new
    · exact holds.unlocked lockedUntil now before

theorem Expired.note {events : List TotpLog} (expired : Expired w)
    (noLock : ∀ u, .locked u ∉ events) : Expired (w.note events) := by
  intro u logged
  obtain new | before := List.mem_append.mp logged
  · exact absurd new (noLock u)
  · exact expired u before

theorem LockoutInvariant.begin (invariant : LockoutInvariant s) {row : TotpUser}
    (lock : s.world.user.lockedUntil = row.lockedUntil)
    (alone : ∀ c ∈ s.calls, c.2.comparing = false) (unlocked : row.locked s.world.now = false) :
    Expired s.world ∧ Counted s.world ∧ s.world.user.locked s.world.now = false := by
  have same : s.world.user.locked s.world.now = false := by
    rw [TotpUser.locked, lock]
    exact unlocked
  refine ⟨expired_of_unlocked invariant.holds same, invariant.idle ?_, same⟩
  apply total_eq_zero
  intro request phase member
  rw [busy, alone _ member]
  rfl

theorem LockoutInvariant.deciding (invariant : LockoutInvariant s) {row : TotpUser}
    (found : s.calls[k]? = some (request, .deciding row))
    (meets : comparesAlone services s (.advance k)) :
    LockoutInvariant ⟨(s.world.decide services row request).1,
      s.calls.set k (request, (s.world.decide services row request).2)⟩ := by
  have guard := meets (request, .deciding row) found row rfl
  have decided := @decide_decided services s.world row request
  generalize s.world.decide services row request = outcome at guard decided
  have others : (∀ c ∈ s.calls, c.2.comparing = false) → ∀ j other phase', j ≠ k →
      s.calls[j]? = some (other, phase') → phase'.comparing = false :=
    fun alone _ _ _ _ there => alone _ (List.mem_of_getElem? there)
  cases decided with
  | refused reply => exact invariant.idle_step found rfl rfl rfl rfl rfl
  | failed reply unlocked =>
    obtain ⟨attempts, lock, alone⟩ := guard rfl
    obtain ⟨expired, counted, _⟩ := invariant.begin lock alone unlocked
    obtain ⟨bounded, below⟩ := counted.wrong
    refine .solo found (others alone) invariant.holds ?_ fun quiet => by cases quiet
    exact registerFailure_known expired attempts.symm (Nat.le_of_lt bounded) (Nat.le_of_lt below)
  | passed unlocked above accepts =>
    rename_i step phase
    have comparing : phase.comparing = true := by
      cases phase <;> first | rfl | cases accepts
    obtain ⟨attempts, lock, alone⟩ := guard comparing
    obtain ⟨expired, counted, unlocked⟩ := invariant.begin lock alone unlocked
    refine .solo found (others alone) (invariant.holds.evaluate unlocked) ?_ fun quiet => ?_
    · have known : Expired (s.world.note [.evaluated s.world.user.lockedUntil s.world.now]) ∧
          Counted (s.world.note [.evaluated s.world.user.lockedUntil s.world.now]) :=
        ⟨expired.note (by simp), counted⟩
      cases phase with
      | clearing | confirming | disabling => exact known
      | _ => cases accepts
    · rw [comparing] at quiet
      cases quiet
  | mistaken unlocked =>
    obtain ⟨attempts, lock, alone⟩ := guard rfl
    obtain ⟨expired, counted, unlocked⟩ := invariant.begin lock alone unlocked
    refine .solo found (others alone) (invariant.holds.evaluate unlocked) ?_
      fun quiet => by cases quiet
    exact ⟨expired.note (by simp), counted, attempts.symm⟩
  | wrong reply unlocked =>
    obtain ⟨attempts, lock, alone⟩ := guard rfl
    obtain ⟨expired, counted, unlocked⟩ := invariant.begin lock alone unlocked
    obtain ⟨bounded, below⟩ := counted.wrong
    refine .solo found (others alone) ((invariant.holds.evaluate unlocked).wrong below) ?_
      fun quiet => by cases quiet
    exact registerFailure_known (expired.note (by simp)) attempts.symm bounded below

theorem LockoutHolds.success (holds : LockoutHolds w) (expired : Expired w) {user : TotpUser}
    {event : TotpLog} (passed : event = .recovered ∨ ∃ step, event = .accepted step) :
    LockoutHolds (w.write user [event]) ∧ Counted (w.write user [event]) := by
  have none : guesses (event :: w.log) = 0 ∧ failures (event :: w.log) = 0 := by
    obtain rfl | ⟨step, rfl⟩ := passed <;> exact ⟨rfl, rfl⟩
  have old : ∀ e ∈ event :: w.log, e ∈ w.log ∨ e = .recovered ∨ ∃ step, e = .accepted step := by
    intro e logged
    obtain rfl | before := List.mem_cons.mp logged
    · exact Or.inr passed
    · exact Or.inl before
  refine ⟨⟨none.1.le.trans (Nat.zero_le _), fun u logged early => ?_,
    none.2.le.trans (Nat.zero_le _), fun lockedUntil now logged => ?_⟩, Or.inl none.1⟩
  · obtain before | new | ⟨_, new⟩ := old _ logged
    · exact absurd (expired u before) (not_le.mpr early)
    · cases new
    · cases new
  · obtain before | new | ⟨_, new⟩ := old _ logged
    · exact holds.unlocked lockedUntil now before
    · cases new
    · cases new

theorem LockoutHolds.register (holds : LockoutHolds w) {attempts : Nat} {lockedUntil : Option ℚ}
    {reply : TotpReply}
    (known : (TotpPhase.registering attempts lockedUntil reply).Known w request) :
    LockoutHolds (w.write { w.user with failedAttempts := attempts, lockedUntil }
        ((lockedUntil.map TotpLog.locked).toList ++ [TotpLog.failed])) ∧
      Counted (w.write { w.user with failedAttempts := attempts, lockedUntil }
        ((lockedUntil.map TotpLog.locked).toList ++ [TotpLog.failed])) := by
  obtain ⟨expired, rfl, counted, bounded, exceeded⟩ := known
  cases lockedUntil with
  | none =>
    have below : w.user.failedAttempts + 1 < lockoutThreshold := by
      by_contra reached
      cases exceeded (not_lt.mp reached)
    refine ⟨⟨bounded, fun u logged early => ?_, Nat.succ_le_succ holds.counted,
      fun lockedUntil now logged => ?_⟩, Or.inr ⟨counted, below⟩⟩
    · obtain new | before := List.mem_cons.mp logged
      · cases new
      · exact absurd (expired u before) (not_le.mpr early)
    · obtain new | before := List.mem_cons.mp logged
      · cases new
      · exact holds.unlocked lockedUntil now before
  | some lock =>
    refine ⟨⟨Nat.zero_le _, fun u logged early => ?_, Nat.succ_le_succ holds.counted,
      fun lockedUntil now logged => ?_⟩, Or.inl rfl⟩
    · obtain new | before := List.mem_cons.mp logged
      · cases new
        exact ⟨lock, rfl, le_refl lock⟩
      · obtain new | before := List.mem_cons.mp before
        · cases new
        · exact absurd (expired u before) (not_le.mpr early)
    · obtain new | before := List.mem_cons.mp logged
      · cases new
      · obtain new | before := List.mem_cons.mp before
        · cases new
        · exact holds.unlocked lockedUntil now before

theorem LockoutInvariant.advance (invariant : LockoutInvariant s) {w' : TotpWorld}
    (found : s.calls[k]? = some (request, phase)) (meets : comparesAlone services s (.advance k))
    (went : s.world.request services request phase = some (w', next)) :
    LockoutInvariant ⟨w', s.calls.set k (request, next)⟩ := by
  have known := invariant.known.at found
  have alone := fun comparing j other phase' (apart : j ≠ k)
    (there : s.calls[j]? = some (other, phase')) => invariant.alone found comparing apart there
  cases phase with
  | loading =>
    simp only [TotpWorld.request] at went
    split at went <;> cases went <;> exact invariant.idle_step found rfl rfl rfl rfl rfl
  | deciding row =>
    have outcome : s.world.decide services row request = (w', next) := Option.some.inj went
    have after := invariant.deciding found meets
    rwa [outcome] at after
  | clearing row step =>
    cases went
    obtain ⟨holds, counted⟩ := invariant.holds.success known.1 (Or.inr ⟨step, rfl⟩)
    exact .solo found (alone rfl) holds trivial fun _ => counted
  | confirming row step recoveryCodes =>
    cases went
    obtain ⟨holds, counted⟩ := invariant.holds.success known.1 (Or.inr ⟨step, rfl⟩)
    exact .solo found (alone rfl) holds trivial fun _ => counted
  | disabling row step =>
    cases went
    obtain ⟨holds, counted⟩ := invariant.holds.success known.1 (Or.inr ⟨step, rfl⟩)
    exact .solo found (alone rfl) holds trivial fun _ => counted
  | recovering =>
    cases went
    obtain ⟨holds, counted⟩ := invariant.holds.success known.1 (Or.inl rfl)
    exact .solo found (alone rfl) holds trivial fun _ => counted
  | consuming row =>
    obtain ⟨expired, counted, attempts⟩ := known
    simp only [TotpWorld.request] at went
    split at went
    · cases went
      exact .solo found (alone rfl) (invariant.holds.later rfl rfl (le_refl _)) ⟨expired, counted⟩
        fun quiet => by cases quiet
    · cases went
      obtain ⟨bounded, below⟩ := counted.wrong
      refine .solo found (alone rfl) (invariant.holds.wrong below) ?_ fun quiet => by cases quiet
      exact registerFailure_known (expired.note (by simp)) attempts bounded below
  | registering attempts lockedUntil reply =>
    cases went
    obtain ⟨holds, counted⟩ := invariant.holds.register known
    exact .solo found (alone rfl) holds trivial fun _ => counted
  | deleting recoveryCodes =>
    cases went
    exact invariant.idle_step found rfl rfl rfl rfl rfl
  | inserting recoveryCodes =>
    cases recoveryCodes <;> cases went <;> exact invariant.idle_step found rfl rfl rfl rfl rfl
  | touching =>
    cases went
    exact invariant.idle_step found rfl rfl rfl rfl rfl
  | ended reply => cases went

theorem LockoutInvariant.tick (invariant : LockoutInvariant s) (time : ℚ) :
    LockoutInvariant { s with world := s.world.tick time } := by
  have later : s.world.now ≤ (s.world.tick time).now := le_max_left _ _
  refine ⟨invariant.holds.later rfl rfl later, invariant.one, invariant.idle, ?_⟩
  exact fun request phase member => (invariant.known request phase member).later rfl rfl later

theorem lockoutInvariant_preserved :
    (totpMachine services).Preserves (comparesAlone services) LockoutInvariant := by
  intro s l s' invariant meets stepped
  cases l with
  | advance k =>
    obtain ⟨request, phase, w, next, found, went, rfl⟩ := advance_cases stepped
    exact invariant.advance found meets went
  | happen time =>
    rw [happen_cases stepped]
    exact invariant.tick time

theorem LockoutInvariant.fresh (fresh : s.Fresh) : LockoutInvariant s := by
  have none : total busy s.calls = 0 := by
    apply total_eq_zero
    intro request phase member
    cases fresh.entering request phase member
    rfl
  refine ⟨⟨?_, ?_, ?_, ?_⟩, none.le.trans (Nat.zero_le 1), fun _ => Or.inl ?_,
    fun request phase member => ?_⟩
  · simp [fresh.log, guesses]
  · simp [fresh.log]
  · simp [fresh.log, failures]
  · simp [fresh.log]
  · simp [fresh.log, guesses]
  · cases fresh.entering request phase member
    trivial

/-- The lockout holds where codes are compared one at a time: in every run in which a
    request compares a code only while no other does, and from a row whose failures and lock are
    still stored, at most five wrong codes are compared before a lock, a lock stays in force
    until its expiry, every failure counts, and no code is compared while a lock is in force. -/
theorem totp_lockout_holds (services : TotpServices) (s s' : TotpState) (labels : List TotpLabel)
    (fresh : s.Fresh)
    (alone : (totpMachine services).Guarded (comparesAlone services) s labels)
    (ran : (totpMachine services).run s labels = some s') : LockoutHolds s'.world :=
  (lockoutInvariant_preserved.run _ (.fresh fresh) alone ran).holds

/-! ## Guesses at once -/

/-- An authenticator that no code satisfies. -/
def noCodes : TotpServices where
  isDigit c := c.isDigit
  codeMatches _ _ _ := false
  hashRecoveryCode := id

/-- An enrolled user with three failures, and some wrong guesses to come. -/
def wrongGuesses (n : Nat) : TotpState where
  world := {
    now := 3000000
    user := { secret := some "s", confirmed := true, lastStep := some 99999, failedAttempts := 3 } }
  calls := List.replicate n (.verify true "123456", .loading)

theorem wrongGuesses_fresh (n : Nat) : (wrongGuesses n).Fresh := by
  refine ⟨rfl, fun request phase member => ?_⟩
  cases List.eq_of_mem_replicate member
  rfl

def guessInTurn (k : Nat) : List TotpLabel := List.replicate 4 (.advance k)

/-- The third request reads the row before the others are counted, and is counted last. -/
def lateGuess : List TotpLabel :=
  .advance 2 :: (guessInTurn 0 ++ guessInTurn 1) ++ List.replicate 3 (.advance 2)

theorem totp_lockout_holds_in_turn : LockoutHolds (((totpMachine noCodes).run (wrongGuesses 3)
    (guessInTurn 0 ++ guessInTurn 1 ++ .happen 3000901 :: guessInTurn 2)).get
      (by decide +kernel)).world :=
  totp_lockout_holds noCodes (wrongGuesses 3) _ _ (wrongGuesses_fresh 3) (by decide +kernel)
    (Option.some_get _).symm

/-- A late failure lifts the lock. -/
theorem late_guess_lifts_lock :
    ¬ ∀ (services : TotpServices) (s s' : TotpState) (labels : List TotpLabel), s.Fresh →
      (totpMachine services).run s labels = some s' → LockoutHolds s'.world := by
  intro claim
  have outcome : ((totpMachine noCodes).run (wrongGuesses 3) lateGuess).any fun s' =>
      decide (s'.world.now = 3000000) && decide (s'.world.user.lockedUntil = none) &&
        s'.world.log.any (· = .locked 3000900) := by
    decide +kernel
  obtain ⟨s', ran, facts⟩ := (Option.any_eq_true _ _).mp outcome
  simp only [Bool.and_eq_true, decide_eq_true_eq, List.any_eq_true] at facts
  obtain ⟨⟨now, lifted⟩, event, logged, rfl⟩ := facts
  have holds := claim noCodes (wrongGuesses 3) s' lateGuess (wrongGuesses_fresh 3) ran
  obtain ⟨u, stored, _⟩ := holds.inForce 3000900 logged (by rw [now]; norm_num)
  rw [lifted] at stored
  cases stored

end

end BurnLens.Backend
