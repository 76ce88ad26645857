import BurnLens.Autonomy.ControlPlane

/-! # The safety envelope

One optimization cycle beside any number of calls that turn kill switches on and off: what a
saved plan and an expansion must satisfy at the moment they are written.
-/

namespace BurnLens.Autonomy

open Library hiding lower
open Trust Verification Program

variable {Switcher : Type}

/-- The cycle is the caller `none`. -/
def beside (c : Cycle) (switches : Switcher → KillSwitch) : Option Switcher → Request
  | none => .executeOptimizationCycle c
  | some i => .setWorkspaceKillSwitch (switches i)

/-- What a canary may be deployed with. -/
structure WithinEnvelope (lower : Str → Str) (plan : AutonomousOptimizationPlan) (w : World) :
    Prop where
  nonnegative : 0 ≤ plan.canaryPercentage
  blastRadius : plan.canaryPercentage ≤ 10
  spend : plan.maxCanarySpendUsd ≤ 5
  earned : ∃ profile, w.trust.profile plan.agentId plan.workspaceId = some profile ∧
    profile.autonomyLevel = .earnedAutonomy
  lowRisk : lower (strip plan.category) ∉ highRiskActions
  switchedOn : w.killSwitched plan.workspaceId = false

def Permits (lower : Str → Str) (c : Cycle) (w : World) : Op → Prop
  | .savePlan plan => plan.canaryStatus = .canaryActive → WithinEnvelope lower plan w
  | .updatePlanStatus _ .verifiedExpanded => w.killSwitched c.workspaceId = false
  | _ => True

/-- Whatever is performed is permitted at that moment. -/
def Enveloped (lower : Str → Str) (c : Cycle) (s : Calls (Option Switcher)) :
    Move (Option Switcher) Raised → Prop
  | .advance i => ∀ op, (s.program i).pending = some op → Permits lower c s.world op
  | .fail .. => True

/-- The plan is neither expanded nor rolled back. -/
def Unsettled (c : Cycle) (w : World) : Prop :=
  ∀ plan ∈ w.plans, plan.planId = c.planId → plan.canaryStatus = .canaryActive

/-- The cycle has read the kill switch, and has yet to expand or roll back. -/
def Watched (c : Cycle) (w : World) (p : Call Reply) : Prop :=
  p.pending ≠ none ∧ p.pending ≠ some (.isWorkspaceKillSwitched c.workspaceId) ∧ Unsettled c w

/-- The kill switch of the workspace is not turned on while the cycle is watched. -/
def Unswitched (c : Cycle) (s : Calls (Option Switcher)) :
    Move (Option Switcher) Raised → Prop
  | .advance i => ∀ switch, (s.program i).pending = some (.setWorkspaceKillSwitch switch) →
      switch.workspaceId = c.workspaceId → switch.isDisabled = true →
      ¬ Watched c s.world (s.program none)
  | .fail .. => True

def Op.readsSwitch (workspaceId : Str) : Op → Bool
  | .isWorkspaceKillSwitched other => other = workspaceId
  | _ => false

def Op.turnsOn (workspaceId : Str) : Op → Bool
  | .setWorkspaceKillSwitch switch => switch.workspaceId = workspaceId && switch.isDisabled
  | _ => false

theorem Op.readsSwitch_iff {workspaceId : Str} {op : Op} :
    op.readsSwitch workspaceId = true ↔ op = .isWorkspaceKillSwitched workspaceId := by
  cases op <;> simp [readsSwitch]

theorem Op.turnsOn_iff {workspaceId : Str} {op : Op} : op.turnsOn workspaceId = true ↔
    ∃ switch, op = .setWorkspaceKillSwitch switch ∧ switch.workspaceId = workspaceId ∧
      switch.isDisabled = true := by
  cases op <;> simp [turnsOn]

theorem watched_iff {c : Cycle} {w : World} {p : Call Reply} : Watched c w p ↔
    (∃ op ∈ p.pending, op.readsSwitch c.workspaceId = false) ∧ Unsettled c w := by
  rw [Watched]
  cases p.pending with
  | none => simp
  | some op => simp [← Bool.not_eq_true, Op.readsSwitch_iff]

theorem unswitched_iff {c : Cycle} {s : Calls (Option Switcher)} {i : Option Switcher} :
    Unswitched c s (.advance i) ↔
      ((∃ op ∈ (s.program i).pending, op.turnsOn c.workspaceId = true) →
        ¬ Watched c s.world (s.program none)) := by
  simp only [Unswitched, Op.turnsOn_iff]
  constructor
  · rintro kept ⟨op, performs, switch, rfl, same, disabled⟩
    exact kept switch performs same disabled
  · intro kept switch performs same disabled
    exact kept ⟨_, performs, switch, rfl, same, disabled⟩

instance (c : Cycle) (w : World) : Decidable (Unsettled c w) :=
  inferInstanceAs (Decidable (∀ plan ∈ w.plans,
    plan.planId = c.planId → plan.canaryStatus = .canaryActive))

instance (c : Cycle) (w : World) (p : Call Reply) : Decidable (Watched c w p) :=
  decidable_of_iff _ watched_iff.symm

instance (c : Cycle) (s : Calls (Option Switcher)) : (move : Move (Option Switcher) Raised) →
    Decidable (Unswitched c s move)
  | .advance _ => decidable_of_iff _ unswitched_iff.symm
  | .fail .. => isTrue trivial

theorem killSwitched_set {w w' : World} {switch : KillSwitch}
    (set : w'.killSwitches = insertOrReplace KillSwitch.clashes w.killSwitches switch)
    (workspaceId : Str) :
    w'.killSwitched workspaceId =
      if switch.workspaceId = workspaceId then switch.isDisabled else w.killSwitched workspaceId := by
  have isOf : ∀ other : KillSwitch, other.isOf workspaceId = true ↔
      other.workspaceId = workspaceId := fun other => by simp [KillSwitch.isOf]
  rw [World.killSwitched, set]
  split_ifs with same
  · rw [find?_insertOrReplace_self ((isOf switch).mpr same)]
    intro other _ its
    simpa [KillSwitch.clashes, same] using (isOf other).mp its
  · rw [find?_insertOrReplace_of_ne (Bool.eq_false_iff.mpr fun its => same ((isOf switch).mp its)),
      World.killSwitched]
    intro other _ its
    rw [KillSwitch.clashes, (isOf other).mp its, decide_eq_false_iff_not]
    exact fun its => same its.symm

/-! ## The contracts -/

/-- The cycle relies on the plans and the trust store being its own, and on its workspace not
    being switched off while it is watched. -/
def cautious (lower : Str → Str) (c : Cycle) : Contract World Op Answer Raised Reply where
  rely p w w' := w'.plans = w.plans ∧ w'.trust = w.trust ∧
    (Watched c w p → w.killSwitched c.workspaceId = false →
      w'.killSwitched c.workspaceId = false)
  good w p := ∀ op, p.pending = some op → Permits lower c w op
  mayAdvance _ _ := True
  mayFail _ _ := True
  refl _ _ := ⟨rfl, rfl, fun _ on => on⟩
  trans p w w' w'' first second := by
    refine ⟨second.1.trans first.1, second.2.1.trans first.2.1, fun watched on => ?_⟩
    refine second.2.2 ⟨watched.1, watched.2.1, ?_⟩ (first.2.2 watched on)
    rw [Unsettled, first.1]
    exact watched.2.2

def switching : Contract World Op Answer Raised Reply where
  rely _ _ _ := True
  good _ p := ∀ op, p.pending = some op → ∃ switch, op = .setWorkspaceKillSwitch switch
  mayAdvance _ _ := True
  mayFail _ _ := True
  refl _ _ := trivial
  trans _ _ _ _ _ _ := trivial

theorem switching_rests (w : World) (error : Raised) : switching.Rests (raised error) w :=
  fun _ _ _ awaits => by cases awaits

theorem switching_program {lower : Str → Str} {h : Hashing} {w : World} (switch : KillSwitch) :
    switching.Always (handle h) ((Request.setWorkspaceKillSwitch switch).program lower h) w := by
  apply Contract.Always.await_of_rests switching_rests (fun _ => True) trivial
    (fun _ _ _ _ => trivial)
  · exact fun _ _ op awaits => ⟨switch, (Option.some.inj awaits).symm⟩
  · exact fun _ _ _ _ _ _ _ _ awaits => by cases awaits

/-- The workspace is switched on and the plan unsettled, and the trust store is as stated. -/
structure Cleared (c : Cycle) (trusted : TrustStore → Prop) (w : World) : Prop where
  on : w.killSwitched c.workspaceId = false
  unsettled : Unsettled c w
  trusted : trusted w.trust

section

variable {lower : Str → Str} {h : Hashing} {c : Cycle} {w : World} {trusted : TrustStore → Prop}

theorem cautious_rests (w : World) (error : Raised) : (cautious lower c).Rests (raised error) w :=
  fun _ _ _ awaits => by cases awaits

theorem cautious_done {reply : Reply} : (cautious lower c).Always (handle h) (done reply) w :=
  fun _ _ _ awaits => by cases awaits

theorem cautious_raised {error : Raised} : (cautious lower c).Always (handle h) (raised error) w :=
  cautious_rests w error

theorem cautious_await {op : Op} {next : Answer op → Call Reply} (cleared : Cleared c trusted w)
    (other : op ≠ .isWorkspaceKillSwitched c.workspaceId)
    (permits : ∀ w, Cleared c trusted w → Permits lower c w op)
    (step : ∀ w w' answer, Cleared c trusted w → handle h w op = .ok (w', answer) →
      (cautious lower c).Always (handle h) (next answer) w') :
    (cautious lower c).Always (handle h) (.await op next) w := by
  apply Contract.Always.await_of_rests cautious_rests (Cleared c trusted) cleared
  · rintro w w' ⟨plans, trust, switch⟩ ⟨on, unsettled, its⟩
    have watched : Watched c w (.await op next) :=
      ⟨nofun, fun same => other (Option.some.inj same), unsettled⟩
    exact ⟨switch watched on, by rw [Unsettled, plans]; exact unsettled, trust ▸ its⟩
  · intro w cleared op' awaits
    cases awaits
    exact permits w cleared
  · exact step

/-- An operation that is always permitted, with no assertion about what follows. -/
theorem cautious_free {op : Op} {next : Answer op → Call Reply}
    (permits : ∀ w, Permits lower c w op)
    (rest : ∀ answer w, (cautious lower c).Always (handle h) (next answer) w) :
    (cautious lower c).Always (handle h) (.await op next) w := by
  apply Contract.Always.await_of_rests cautious_rests (fun _ => True) trivial
    (fun _ _ _ _ => trivial)
  · intro w _ op' awaits
    cases awaits
    exact permits w
  · exact fun w w' answer _ _ => rest answer w'

theorem cautious_log {timeline : List AuditEntry} {stage : AutonomousLoopStage} {action : Str}
    {details : Fields} {k : List AuditEntry → Call Reply} (cleared : Cleared c trusted w)
    (rest : ∀ timeline w, Cleared c trusted w → (cautious lower c).Always (handle h) (k timeline) w) :
    (cautious lower c).Always (handle h) (c.log timeline stage action details >>= k) w := by
  apply cautious_await cleared
  · rintro ⟨⟩
  · exact fun _ _ => trivial
  intro w w' _ cleared recorded
  cases recorded
  exact rest _ _ ⟨cleared.on, cleared.unsettled, cleared.trusted⟩

theorem cautious_log_free {timeline : List AuditEntry} {stage : AutonomousLoopStage} {action : Str}
    {details : Fields} {k : List AuditEntry → Call Reply}
    (rest : ∀ timeline w, (cautious lower c).Always (handle h) (k timeline) w) :
    (cautious lower c).Always (handle h) (c.log timeline stage action details >>= k) w :=
  cautious_free (fun _ => trivial) fun _ w => rest _ w

theorem cautious_evaluateAgentTrust {e : Evidence} {k : AgentTrustProfile → Call Reply}
    (rest : ∀ profile w, (cautious lower c).Always (handle h) (k profile) w) :
    (cautious lower c).Always (handle h) (Call.ofTrust (evaluateAgentTrust e) >>= k) w :=
  cautious_free (fun _ => trivial) fun _ w => rest _ w

/-- The operations of the verification engine leave the assertion true. -/
theorem cautious_verification {op : Verification.Op} {next : Verification.Answer op → Call Reply}
    (cleared : Cleared c trusted w)
    (rest : ∀ answer w, Cleared c trusted w →
      (cautious lower c).Always (handle h) (next answer) w) :
    (cautious lower c).Always (handle h) (.await (.verification op) next) w := by
  apply cautious_await cleared
  · rintro ⟨⟩
  · exact fun _ _ => trivial
  intro w w' answer cleared handled
  obtain ⟨store, -, rfl⟩ := handle_verification handled
  exact rest answer _ ⟨cleared.on, cleared.unsettled, cleared.trusted⟩

variable {k : AutonomousLoopResult → Call Reply}

theorem cautious_settle {verification : SavingsVerificationRecord} {timeline : List AuditEntry}
    (cleared : Cleared c trusted w)
    (rest : ∀ result w, (cautious lower c).Always (handle h) (k result) w) :
    (cautious lower c).Always (handle h) (c.settle verification timeline >>= k) w := by
  rw [Cycle.settle]
  split
  · simp only [Program.bind_assoc, perform_bind, await_bind, pure_eq, done_bind]
    apply cautious_await cleared
    · rintro ⟨⟩
    · exact fun _ cleared => cleared.on
    intro _ w _ _ _
    apply cautious_log_free
    intro timeline w
    apply cautious_evaluateAgentTrust
    intro profile w
    exact cautious_log_free fun timeline w => rest _ w
  · simp only [Program.bind_assoc, perform_bind, await_bind, pure_eq, done_bind]
    apply cautious_free
    · exact fun _ => trivial
    intro _ w
    apply cautious_log_free
    intro timeline w
    apply cautious_evaluateAgentTrust
    intro profile w
    exact cautious_log_free fun timeline w => rest _ w

theorem cautious_verify {timeline : List AuditEntry} (cleared : Cleared c trusted w)
    (rest : ∀ result w, (cautious lower c).Always (handle h) (k result) w) :
    (cautious lower c).Always (handle h) (c.verify h timeline >>= k) w := by
  simp only [Cycle.verify, Program.bind_assoc]
  apply cautious_verification cleared
  intro found w cleared
  cases found with
  | none => exact cautious_raised
  | some baseline =>
    show (cautious lower c).Always (handle h) (Call.ofVerification
      (Verification.saveCertified (c.observation.certify h baseline)) >>= _) w
    cases c.observation.certify h baseline with
    | error => exact cautious_raised
    | ok record =>
      apply cautious_verification cleared
      intro _ w cleared
      apply cautious_log cleared
      intro timeline w cleared
      exact cautious_settle cleared rest

theorem unsettled_saved {w w' : World}
    (saved : handle h w (.savePlan c.plan) = .ok (w', ())) : Unsettled c w' := by
  cases saved
  intro plan member its
  obtain ⟨-, apart⟩ | rfl := mem_insertOrReplace.mp member
  · exact absurd its (of_decide_eq_false apart)
  · rfl

theorem cautious_deploy {timeline : List AuditEntry} (nonnegative : 0 ≤ c.canaryPercentage)
    (capped : c.maxCanarySpendUsd ≤ 5) (lowRisk : lower (strip c.category) ∉ highRiskActions)
    (cleared : Cleared c (fun store => ∃ profile, store.profile c.agentId c.workspaceId =
      some profile ∧ profile.autonomyLevel = .earnedAutonomy) w)
    (rest : ∀ result w, (cautious lower c).Always (handle h) (k result) w) :
    (cautious lower c).Always (handle h) (c.deploy h timeline >>= k) w := by
  simp only [Cycle.deploy, Cycle.observe, recordBaseline, Program.bind_assoc, perform_bind,
    await_bind]
  apply cautious_await cleared
  · rintro ⟨⟩
  · intro w cleared _
    exact ⟨le_min nonnegative (by norm_num), min_le_right _ _, capped, cleared.trusted, lowRisk,
      cleared.on⟩
  intro w w' _ cleared saved
  have cleared' : Cleared c (fun _ => True) w' := by
    refine ⟨?_, unsettled_saved saved, trivial⟩
    cases saved
    exact cleared.on
  apply cautious_log cleared'
  intro timeline w cleared
  split
  · exact cautious_raised
  · apply cautious_verification cleared
    intro _ w cleared
    apply cautious_log cleared
    intro timeline w cleared
    exact cautious_verify cleared rest

/-- The audit of an eligibility check leaves the profile that was checked. -/
theorem cautious_audit {check : AutonomyEligibilityCheck} {profile : AgentTrustProfile}
    {k : AutonomyEligibilityCheck → Call Reply}
    (cleared : Cleared c (fun store => store.profile c.agentId c.workspaceId = some profile) w)
    (rest : ∀ w, Cleared c (fun store => store.profile c.agentId c.workspaceId = some profile) w →
      (cautious lower c).Always (handle h) (k check) w) :
    (cautious lower c).Always (handle h)
      (.await (.trust (.recordEligibilityAudit check)) fun _ => k check) w := by
  apply cautious_await cleared
  · rintro ⟨⟩
  · exact fun _ _ => trivial
  intro w w' _ cleared audited
  obtain ⟨store, recorded, rfl⟩ := handle_trust audited
  cases recorded
  exact rest _ ⟨cleared.on, cleared.unsettled, cleared.trusted⟩

theorem cautious_checkAutonomyEligibility {k : AutonomyEligibilityCheck → Call Reply}
    (cleared : Cleared c (fun _ => True) w)
    (rest : ∀ profile w,
      Cleared c (fun store => store.profile c.agentId c.workspaceId = some profile) w →
        (cautious lower c).Always (handle h) (k (c.action.check lower profile)) w) :
    (cautious lower c).Always (handle h)
      (Call.ofTrust (checkAutonomyEligibility lower c.action) >>= k) w := by
  apply cautious_await cleared
  · rintro ⟨⟩
  · exact fun _ _ => trivial
  intro w w' stored cleared read
  obtain ⟨store, got, rfl⟩ := handle_trust read
  cases got
  cases known : w.trust.profile c.action.agentId c.action.workspaceId with
  | some profile =>
    apply cautious_audit
    · exact ⟨cleared.on, cleared.unsettled, known⟩
    · exact fun w cleared => rest profile w cleared
  | none =>
    -- a profile without history is saved and checked
    apply cautious_await cleared
    · rintro ⟨⟩
    · exact fun _ _ => trivial
    intro w w' _ cleared saved
    obtain ⟨store, evaluated, rfl⟩ := handle_trust saved
    cases evaluated
    apply cautious_audit
    · exact ⟨cleared.on, cleared.unsettled, profile_saved⟩
    · exact fun w cleared => rest c.action.noEvidence.calculateScore w cleared

theorem cautious_execute (nonnegative : 0 ≤ c.canaryPercentage) (capped : c.maxCanarySpendUsd ≤ 5)
    (unsettled : Unsettled c w)
    (rest : ∀ result w, (cautious lower c).Always (handle h) (k result) w) :
    (cautious lower c).Always (handle h) (c.execute lower h >>= k) w := by
  simp only [Cycle.execute, Cycle.checkPolicy, perform_bind, await_bind]
  apply Contract.Always.await_of_rests cautious_rests (Unsettled c) unsettled
  · intro w w' rely unsettled
    rw [Unsettled, rely.1]
    exact unsettled
  · intro w _ op awaits
    cases awaits
    trivial
  · intro w w' killSwitched unsettled read
    cases read
    split
    · simp only [Program.bind_assoc, pure_eq, done_bind]
      exact cautious_log_free fun timeline w => rest _ w
    · next on =>
      simp only [Program.bind_assoc]
      have cleared : Cleared c (fun _ => True) w := ⟨by simpa using on, unsettled, trivial⟩
      apply cautious_log cleared
      intro timeline w cleared
      apply cautious_log cleared
      intro timeline w cleared
      apply cautious_log cleared
      intro timeline w cleared
      apply cautious_checkAutonomyEligibility cleared
      intro profile w cleared
      split
      · next eligible =>
        obtain ⟨lowRisk, -, -, earned⟩ := Action.eligible_iff.mp eligible
        simp only [Program.bind_assoc]
        apply cautious_log cleared
        intro timeline w cleared
        apply cautious_deploy nonnegative capped lowRisk _ rest
        exact ⟨cleared.on, cleared.unsettled, profile, cleared.trusted, earned⟩
      · simp only [Program.bind_assoc, pure_eq, done_bind]
        exact cautious_log_free fun timeline w => rest _ w

end

/-! ## Every timing -/

variable {lower : Str → Str} {h : Hashing} {c : Cycle} {switches : Switcher → KillSwitch}

def envelope (lower : Str → Str) (c : Cycle) :
    Option Switcher → Contract World Op Answer Raised Reply
  | none => cautious lower c
  | some _ => switching

theorem envelope_start {w : World} (nonnegative : 0 ≤ c.canaryPercentage)
    (capped : c.maxCanarySpendUsd ≤ 5) (new : ∀ plan ∈ w.plans, plan.planId ≠ c.planId)
    (i : Option Switcher) :
    (envelope lower c i).Always (handle h) ((beside c switches i).program lower h) w := by
  cases i with
  | none =>
    apply cautious_execute nonnegative capped
    · exact fun plan member its => absurd its (new plan member)
    · exact fun _ _ => cautious_done
  | some i => exact switching_program (switches i)

variable [DecidableEq Switcher]

theorem envelope_preserves :
    (pool (handle h)).Preserves (Unswitched c) fun s : Calls (Option Switcher) =>
      ∀ i, (envelope lower c i).Always (handle h) (s.program i) s.world := by
  refine Pool.preserves (envelope lower c) (Unswitched c) ?_ ?_ ?_
  · intro s i w p always unswitched went j other
    cases j with
    | some j => trivial
    | none =>
      cases i with
      | none => exact absurd rfl other
      | some i =>
        obtain ⟨op, next, awaits, outcome⟩ := after_cases went
        have performs : (s.program (some i)).pending = some op := by rw [awaits]; rfl
        obtain ⟨switch, rfl⟩ := (always (some i)).good op performs
        obtain ⟨answer, handled, -⟩ | ⟨error, refused, -⟩ := outcome
        · cases handled
          refine ⟨rfl, rfl, fun watched on => ?_⟩
          rw [killSwitched_set rfl]
          split_ifs with same
          · by_contra disabled
            rw [Bool.not_eq_false] at disabled
            exact unswitched switch performs same disabled watched
          · exact on
        · cases refused
  · intro s i _ _
    cases i <;> trivial
  · intro s i error _ _
    cases i <;> trivial

/-- The safety envelope holds for a cycle with a canary percentage that is not negative and
    a spend limit within the platform's cap, while the kill switch is not turned on between
    its check and its settlement. -/
theorem envelope_kept (lower : Str → Str) (h : Hashing) (c : Cycle)
    (switches : Switcher → KillSwitch) (w : World) (nonnegative : 0 ≤ c.canaryPercentage)
    (capped : c.maxCanarySpendUsd ≤ 5) (new : ∀ plan ∈ w.plans, plan.planId ≠ c.planId)
    (moves : List (Move (Option Switcher) Raised))
    (unswitched : (pool (handle h)).Guarded (Unswitched c)
      (start lower h w (beside c switches)) moves) :
    (pool (handle h)).Guarded (Enveloped lower c) (start lower h w (beside c switches)) moves := by
  refine (pool (handle h)).guarded_imp (fun s => ∀ i,
    (envelope lower c i).Always (handle h) (s.program i) s.world) ?_ envelope_preserves ?_ unswitched
  · intro s move always _
    cases move with
    | fail => trivial
    | advance i =>
      intro op performs
      have good := (always i).good
      cases i with
      | none => exact good op performs
      | some i =>
        obtain ⟨switch, rfl⟩ := good op performs
        trivial
  · exact envelope_start nonnegative capped new

section TrustedAgent

def digest : Hashing := ⟨fun text => text, fun time => decimal time⟩

def trusted : Evidence := ⟨"agent-1", "default", 1, 1, 0, 0, 0, 50, 100⟩

/-- A workspace with one agent that has earned autonomy. -/
def workspace : World := ⟨[], [], [], ⟨[trusted.calculateScore], []⟩, ⟨[], []⟩⟩

def routine (canaryPercentage : ℚ) (maxCanarySpendUsd : Usd) : Cycle where
  workspaceId := "default"
  agentId := "agent-1"
  recommendationId := "rec-1"
  category := "model_downgrade"
  targetConfig := []
  projectedSavingUsd := 10
  baselineCostUsd := 100
  baselineRequests := 1000
  baselineAcceptedOutcomes := 950
  postChangeCostUsd := 5
  postChangeRequests := 100
  postChangeAcceptedOutcomes := 95
  canaryPercentage := canaryPercentage
  maxCanarySpendUsd := maxCanarySpendUsd
  planId := "plan-1"
  snapshotId := "snap-1"
  snapshotAt := 0
  verificationId := "verif-1"
  verifiedAt := 0

def switchOf (workspaceId : Str) (_ : Unit) : KillSwitch := ⟨workspaceId, true, "incident", "ops"⟩

/-- The moves of a cycle up to its deployment. -/
def untilDeployment : List (Move (Option Unit) Raised) := List.replicate 7 (.advance none)

/-- The cycle is about to deploy a canary that meets `test`. -/
def deploys (test : AutonomousOptimizationPlan → World → Bool) (s : Calls (Option Unit)) : Bool :=
  match (s.program none).pending with
  | some (.savePlan plan) => plan.canaryStatus = .canaryActive ∧ test plan s.world
  | _ => false

theorem left_of_deploys {c : Cycle} {s : Calls (Option Unit)} {h : Hashing}
    {moves : List (Move (Option Unit) Raised)} (test : AutonomousOptimizationPlan → World → Bool)
    (ran : ((pool (handle h)).run s moves).any (deploys test) = true)
    (outside : ∀ plan w, test plan w = true → ¬ WithinEnvelope id plan w) :
    ¬ (pool (handle h)).Guarded (Enveloped id c) s (moves ++ [.advance none]) := by
  intro kept
  obtain ⟨s', reached, deploying⟩ := (Option.any_eq_true _ _).mp ran
  have permitted := (pool (handle h)).guarded_last kept reached
  rw [deploys] at deploying
  split at deploying
  · next plan performs =>
    rw [decide_eq_true_eq] at deploying
    exact outside plan s'.world deploying.2 (permitted _ performs deploying.1)
  · cases deploying

/-- A canary of -5 percent with a limit of 1000 USD is deployed, and one of 10 percent and 5 USD
    after the workspace is switched off. -/
theorem envelope_left :
    ¬ (pool (handle digest)).Guarded (Enveloped id (routine (-5) 1000))
        (start id digest workspace (beside (routine (-5) 1000) (switchOf "other")))
        (untilDeployment ++ [Move.advance none]) ∧
      ¬ (pool (handle digest)).Guarded (Enveloped id (routine 10 5))
        (start id digest workspace (beside (routine 10 5) (switchOf "default")))
        (untilDeployment ++ [Move.advance (some ())] ++ [Move.advance none]) := by
  constructor
  · apply left_of_deploys fun plan _ => 5 < plan.maxCanarySpendUsd
    · decide +kernel
    · exact fun plan w exceeded within => absurd within.spend (not_le.mpr (of_decide_eq_true exceeded))
  · apply left_of_deploys fun plan w => w.killSwitched plan.workspaceId
    · decide +kernel
    · exact fun plan w off within => absurd (off.symm.trans within.switchedOn) (by decide)

/-- Another workspace may be switched off at any time, and the workspace itself when the canary is
    expanded. -/
def switchesOff : Bool → KillSwitch
  | true => switchOf "other" ()
  | false => switchOf "default" ()

def wholeCycle : List (Move (Option Bool) Raised) :=
  List.flatten [List.replicate 9 (.advance none), [.advance (some true)],
    List.replicate 7 (.advance none), [.advance (some false)], List.replicate 2 (.advance none)]

/-- The canary is deployed and expanded. -/
theorem envelope_kept_beside :
    ((pool (handle digest)).run
        (start id digest workspace (beside (routine 10 5) switchesOff)) wholeCycle).any
          (fun s => s.world.plans.map (·.canaryStatus) = [.verifiedExpanded] ∧
            s.world.killSwitched "default" ∧ (s.program none).pending.isNone) = true ∧
      (pool (handle digest)).Guarded (Enveloped id (routine 10 5))
        (start id digest workspace (beside (routine 10 5) switchesOff)) wholeCycle := by
  constructor
  · decide +kernel
  · apply envelope_kept id digest (routine 10 5) switchesOff workspace
    · decide +kernel
    · decide +kernel
    · exact fun plan member => absurd member List.not_mem_nil
    · decide +kernel

end TrustedAgent

end BurnLens.Autonomy
