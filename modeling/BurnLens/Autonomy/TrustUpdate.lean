import BurnLens.Autonomy.Envelope
import BurnLens.Trust.Score

/-! # The trust after a cycle

What a cycle leaves as the stored trust profile of its agent: the profile that was stored, or one
that is computed from the constants of an expansion or of a rollback.
-/

namespace BurnLens.Autonomy

open Library hiding lower
open Trust Verification Program

variable {h : Hashing} {c : Cycle} {before : AgentTrustProfile} {w : World}

def Cycle.stored (c : Cycle) (w : World) : Option AgentTrustProfile :=
  w.trust.profile c.agentId c.workspaceId

/-- How a cycle ends for a stored profile. -/
inductive Ending (c : Cycle) (before : AgentTrustProfile) (w : World) (result : AutonomousLoopResult) :
    Prop where
  | aborted : result.expanded = false → result.rolledBack = false → c.stored w = some before →
      Ending c before w result
  | expanded : result.expanded = true → result.rolledBack = false →
      before.autonomyLevel = .earnedAutonomy → c.stored w = some c.reinforcement.calculateScore →
      Ending c before w result
  | rolledBack : result.expanded = false → result.rolledBack = true →
      before.autonomyLevel = .earnedAutonomy → c.stored w = some c.penalty.calculateScore →
      Ending c before w result

theorem ensures_other {op : Op} {next : Answer op → Call AutonomousLoopResult}
    {post : World → AutonomousLoopResult → Prop} (other : ∀ trustOp, op ≠ .trust trustOp)
    (rest : ∀ w' answer, w'.trust = w.trust → (next answer).Ensures (handle h) w' post) :
    (await op next).Ensures (handle h) w post := by
  apply ensures_await
  intro w' answer handled
  obtain same | ⟨trustOp, its⟩ := trust_of_handle handled
  · exact rest w' answer same
  · exact absurd its (other trustOp)

theorem ensures_log {timeline : List AuditEntry} {stage : AutonomousLoopStage} {action : Str}
    {details : Fields} {k : List AuditEntry → Call AutonomousLoopResult}
    {post : World → AutonomousLoopResult → Prop}
    (rest : ∀ timeline w', w'.trust = w.trust → (k timeline).Ensures (handle h) w' post) :
    (c.log timeline stage action details >>= k).Ensures (handle h) w post := by
  apply ensures_other
  · intro trustOp same
    cases same
  · exact fun w' _ same => rest _ w' same

theorem ensures_evaluateAgentTrust {e : Evidence} {k : AgentTrustProfile → Call AutonomousLoopResult}
    {post : World → AutonomousLoopResult → Prop}
    (rest : ∀ w', w'.trust.profile e.agentId e.workspaceId = some e.calculateScore →
      (k e.calculateScore).Ensures (handle h) w' post) :
    (Call.ofTrust (evaluateAgentTrust e) >>= k).Ensures (handle h) w post := by
  apply ensures_await
  intro w' answer handled
  obtain ⟨store, saved, rfl⟩ := handle_trust handled
  apply rest
  rw [Trust.handle] at saved
  split at saved
  · cases saved
    exact profile_saved
  · cases saved

/-! ## The stages -/

theorem ensures_settle {verification : SavingsVerificationRecord} {timeline : List AuditEntry}
    (earned : before.autonomyLevel = .earnedAutonomy) :
    (c.settle verification timeline).Ensures (handle h) w (Ending c before) := by
  rw [Cycle.settle]
  split
  · next passed =>
    apply ensures_other
    · intro trustOp same
      cases same
    intro w _ _
    apply ensures_log
    intro timeline w _
    apply ensures_evaluateAgentTrust
    intro w saved
    apply ensures_log
    intro timeline w' same
    apply ensures_done
    exact .expanded (decide_eq_true passed) (decide_eq_false (not_not.mpr passed)) earned
      (by rw [Cycle.stored, same]; exact saved)
  · next failed =>
    apply ensures_other
    · intro trustOp same
      cases same
    intro w _ _
    apply ensures_log
    intro timeline w _
    apply ensures_evaluateAgentTrust
    intro w saved
    apply ensures_log
    intro timeline w' same
    apply ensures_done
    exact .rolledBack (decide_eq_false failed) (decide_eq_true failed) earned
      (by rw [Cycle.stored, same]; exact saved)

theorem ensures_verifySavings {o : Observation} {k : SavingsVerificationRecord → Call AutonomousLoopResult}
    {post : World → AutonomousLoopResult → Prop}
    (rest : ∀ record w', (k record).Ensures (handle h) w' post) :
    (Call.ofVerification (verifySavings h o) >>= k).Ensures (handle h) w post := by
  apply ensures_await
  intro w' found _
  cases found with
  | none => exact ensures_raised
  | some baseline =>
    show (Call.ofVerification (saveCertified (o.certify h baseline)) >>= k).Ensures (handle h) w' post
    cases o.certify h baseline with
    | error error => exact ensures_raised
    | ok record =>
      apply ensures_await
      exact fun w' _ _ => rest record w'

theorem ensures_deploy {timeline : List AuditEntry} (earned : before.autonomyLevel = .earnedAutonomy) :
    (c.deploy h timeline).Ensures (handle h) w (Ending c before) := by
  simp only [Cycle.deploy, Cycle.observe, Cycle.verify, recordBaseline, perform_bind]
  apply ensures_await
  intro w _ _
  apply ensures_log
  intro timeline w _
  split
  · exact ensures_raised
  · apply ensures_await
    intro w _ _
    apply ensures_log
    intro timeline w _
    apply ensures_verifySavings
    intro record w
    apply ensures_log
    exact fun timeline w _ => ensures_settle earned

theorem ensures_checkAutonomyEligibility {lower : Str → Str}
    {k : AutonomyEligibilityCheck → Call AutonomousLoopResult}
    {post : World → AutonomousLoopResult → Prop} (stored : c.stored w = some before)
    (rest : ∀ w', c.stored w' = some before →
      (k (c.action.check lower before)).Ensures (handle h) w' post) :
    (Call.ofTrust (checkAutonomyEligibility lower c.action) >>= k).Ensures (handle h) w post := by
  apply ensures_await
  intro w' found handled
  obtain ⟨store, got, rfl⟩ := handle_trust handled
  have answered : store = w.trust ∧ found = c.stored w := by
    cases got
    exact ⟨rfl, rfl⟩
  obtain ⟨rfl, rfl⟩ := answered
  rw [stored]
  apply ensures_await
  intro w' _ audited
  obtain ⟨store, recorded, rfl⟩ := handle_trust audited
  apply rest
  cases recorded
  exact stored

/-- A cycle leaves the profile that was stored, or one of two others. -/
theorem ensures_execute (lower : Str → Str) (stored : c.stored w = some before) :
    (c.execute lower h).Ensures (handle h) w (Ending c before) := by
  have kept : ∀ {w w' : World}, w'.trust = w.trust → c.stored w = some before →
      c.stored w' = some before := by
    intro w w' same its
    rw [Cycle.stored, same]
    exact its
  simp only [Cycle.execute, Cycle.checkPolicy, perform_bind]
  apply ensures_other
  · intro trustOp same
    cases same
  intro w killSwitched same
  have stored := kept same stored
  split
  · apply ensures_log
    exact fun timeline w' same => ensures_done (.aborted rfl rfl (kept same stored))
  · apply ensures_log
    intro timeline w same
    have stored := kept same stored
    apply ensures_log
    intro timeline w same
    have stored := kept same stored
    apply ensures_log
    intro timeline w same
    have stored := kept same stored
    refine ensures_checkAutonomyEligibility stored ?_
    intro w stored
    split
    · next eligible =>
      have earned := (Action.eligible_iff.mp eligible).2.2.2
      apply ensures_log
      exact fun timeline w _ => ensures_deploy earned
    · apply ensures_log
      exact fun timeline w' same => ensures_done (.aborted rfl rfl (kept same stored))

/-! ## Before and after -/

def levelRank : AutonomyLevel → Nat
  | .restricted => 0
  | .standard => 1
  | .earnedAutonomy => 2

/-- Not more trusted: neither by score nor by level. -/
structure NotAbove (profile other : AgentTrustProfile) : Prop where
  score : profile.trustScore ≤ other.trustScore
  level : levelRank profile.autonomyLevel ≤ levelRank other.autonomyLevel

/-- A rollback does not raise trust, an expansion does not lower it, and no count goes down. -/
structure TrustKept (before after : AgentTrustProfile) (result : AutonomousLoopResult) : Prop where
  rollback : result.rolledBack = true → NotAbove after before
  expansion : result.expanded = true → NotAbove before after
  tasks : before.totalTasks ≤ after.totalTasks
  spend : before.totalSpendUsd ≤ after.totalSpendUsd

theorem penalty_profile (c : Cycle) : c.penalty.calculateScore.trustScore = 91 ∧
    c.penalty.calculateScore.autonomyLevel = .earnedAutonomy ∧
    c.penalty.calculateScore.totalTasks = 50 ∧ c.penalty.calculateScore.totalSpendUsd = 100 := by
  have same : ∀ agentId workspaceId : Str,
      Evidence.effectiveScore ⟨agentId, workspaceId, 90 / 100, 85 / 100, 8 / 100, 0, 5 / 100, 50, 100⟩ =
        Evidence.effectiveScore ⟨[], [], 90 / 100, 85 / 100, 8 / 100, 0, 5 / 100, 50, 100⟩ :=
    fun _ _ => rfl
  have level : ∀ agentId workspaceId : Str,
      Evidence.autonomyLevel ⟨agentId, workspaceId, 90 / 100, 85 / 100, 8 / 100, 0, 5 / 100, 50, 100⟩ =
        Evidence.autonomyLevel ⟨[], [], 90 / 100, 85 / 100, 8 / 100, 0, 5 / 100, 50, 100⟩ :=
    fun _ _ => rfl
  refine ⟨(same _ _).trans (by decide +kernel), (level _ _).trans (by decide +kernel), rfl, ?_⟩
  show roundTo 4 100 = 100
  decide +kernel

theorem reinforcement_profile (c : Cycle) : c.reinforcement.calculateScore.trustScore = 979 / 10 ∧
    c.reinforcement.calculateScore.autonomyLevel = .earnedAutonomy ∧
    c.reinforcement.calculateScore.totalTasks = 50 ∧
    c.reinforcement.calculateScore.totalSpendUsd = 100 := by
  have same : ∀ agentId workspaceId : Str,
      Evidence.effectiveScore ⟨agentId, workspaceId, 98 / 100, 96 / 100, 0, 0, 2 / 100, 50, 100⟩ =
        Evidence.effectiveScore ⟨[], [], 98 / 100, 96 / 100, 0, 0, 2 / 100, 50, 100⟩ :=
    fun _ _ => rfl
  have level : ∀ agentId workspaceId : Str,
      Evidence.autonomyLevel ⟨agentId, workspaceId, 98 / 100, 96 / 100, 0, 0, 2 / 100, 50, 100⟩ =
        Evidence.autonomyLevel ⟨[], [], 98 / 100, 96 / 100, 0, 0, 2 / 100, 50, 100⟩ :=
    fun _ _ => rfl
  refine ⟨(same _ _).trans (by decide +kernel), (level _ _).trans (by decide +kernel), rfl, ?_⟩
  show roundTo 4 100 = 100
  decide +kernel

/-- A cycle keeps trust if and only if the constants it stores do, seen from what was stored. -/
theorem trust_kept_iff (lower : Str → Str) (h : Hashing) (c : Cycle) (w : World)
    (before : AgentTrustProfile) (stored : c.stored w = some before) (w' : World)
    (result : AutonomousLoopResult) (ran : (c.execute lower h).run (handle h) w = .ok (w', result)) :
    ∃ after, c.stored w' = some after ∧ (TrustKept before after result ↔
      (result.rolledBack = true →
        91 ≤ before.trustScore ∧ before.totalTasks ≤ 50 ∧ before.totalSpendUsd ≤ 100) ∧
      (result.expanded = true →
        before.trustScore ≤ 979 / 10 ∧ before.totalTasks ≤ 50 ∧ before.totalSpendUsd ≤ 100)) := by
  have never : false ≠ true := Bool.false_ne_true
  obtain ⟨notExpanded, notRolledBack, its⟩ | ⟨expanded, notRolledBack, earned, its⟩ |
      ⟨notExpanded, rolledBack, earned, its⟩ := ensures_execute lower stored w' result ran
  · refine ⟨before, its, fun _ => ?_, fun _ => ⟨?_, ?_, le_rfl, le_rfl⟩⟩
    · exact ⟨fun its => absurd (notRolledBack.symm.trans its) never,
        fun its => absurd (notExpanded.symm.trans its) never⟩
    · exact fun its => absurd (notRolledBack.symm.trans its) never
    · exact fun its => absurd (notExpanded.symm.trans its) never
  · obtain ⟨score, level, tasks, spend⟩ := reinforcement_profile c
    refine ⟨c.reinforcement.calculateScore, its, fun kept => ?_, fun condition => ?_⟩
    · refine ⟨fun its => absurd (notRolledBack.symm.trans its) never, fun _ => ⟨?_, ?_, ?_⟩⟩
      · exact (kept.expansion expanded).score.trans_eq score
      · exact kept.tasks.trans_eq tasks
      · exact kept.spend.trans_eq spend
    · obtain ⟨low, few, little⟩ := condition.2 expanded
      refine ⟨fun its => absurd (notRolledBack.symm.trans its) never, fun _ => ⟨?_, ?_⟩, ?_, ?_⟩
      · exact low.trans_eq score.symm
      · rw [level, earned]
      · exact few.trans_eq tasks.symm
      · exact little.trans_eq spend.symm
  · obtain ⟨score, level, tasks, spend⟩ := penalty_profile c
    refine ⟨c.penalty.calculateScore, its, fun kept => ?_, fun condition => ?_⟩
    · refine ⟨fun _ => ⟨?_, ?_, ?_⟩, fun its => absurd (notExpanded.symm.trans its) never⟩
      · exact score.symm.trans_le (kept.rollback rolledBack).score
      · exact kept.tasks.trans_eq tasks
      · exact kept.spend.trans_eq spend
    · obtain ⟨high, few, little⟩ := condition.1 rolledBack
      refine ⟨fun _ => ⟨?_, ?_⟩, fun its => absurd (notExpanded.symm.trans its) never, ?_, ?_⟩
      · exact score.trans_le high
      · rw [level, earned]
      · exact few.trans_eq tasks.symm
      · exact little.trans_eq spend.symm

section Constants

/-- An agent with a score of 82.5 over 100 tasks. -/
def seasoned : Evidence := ⟨"agent-1", "default", 1, 1 / 2, 0, 0, 0, 100, 500⟩

def seasonedWorkspace : World := ⟨[], [], [], ⟨[seasoned.calculateScore], []⟩, ⟨[], []⟩⟩

/-- A canary that costs more than the baseline. -/
def costly : Cycle := { routine 10 5 with postChangeCostUsd := 50 }

def ranTo (ran : Except Raised (World × AutonomousLoopResult))
    (test : World → AutonomousLoopResult → Bool) : Bool :=
  match ran with
  | .ok (w, result) => test w result
  | .error _ => false

theorem exists_of_ranTo (ran : Except Raised (World × AutonomousLoopResult))
    (test : World → AutonomousLoopResult → Bool) (holds : ranTo ran test = true) :
    ∃ w result, ran = .ok (w, result) ∧ test w result = true := by
  cases ran with
  | ok pair => exact ⟨pair.1, pair.2, rfl, holds⟩
  | error error => cases holds

/-- A rollback raises the score from 82.5 to 91, and forgets tasks and spend. -/
theorem rollback_raises_trust : ∃ w' result after,
    (costly.execute id digest).run (handle digest) seasonedWorkspace = .ok (w', result) ∧
      result.rolledBack = true ∧ costly.stored w' = some after ∧
      seasoned.calculateScore.trustScore < after.trustScore ∧
      after.totalTasks < seasoned.calculateScore.totalTasks ∧
      after.totalSpendUsd < seasoned.calculateScore.totalSpendUsd := by
  obtain ⟨w', result, ran, test⟩ := exists_of_ranTo
    ((costly.execute id digest).run (handle digest) seasonedWorkspace)
    (fun w result => result.rolledBack && (costly.stored w).any fun after =>
      seasoned.calculateScore.trustScore < after.trustScore &&
        after.totalTasks < seasoned.calculateScore.totalTasks &&
        after.totalSpendUsd < seasoned.calculateScore.totalSpendUsd) (by decide +kernel)
  rw [Bool.and_eq_true] at test
  obtain ⟨after, its, compared⟩ := (Option.any_eq_true _ _).mp test.2
  simp only [Bool.and_eq_true, decide_eq_true_eq] at compared
  exact ⟨w', result, after, ran, test.1, its, compared.1.1, compared.1.2, compared.2⟩

/-- A rollback of an agent with the score 100 over 50 tasks. -/
theorem rollback_lowers_trust : ∃ w' result after,
    (costly.execute id digest).run (handle digest) workspace = .ok (w', result) ∧
      costly.stored w' = some after ∧ TrustKept trusted.calculateScore after result := by
  obtain ⟨w', result, ran, test⟩ := exists_of_ranTo
    ((costly.execute id digest).run (handle digest) workspace)
    (fun _ result => result.rolledBack && !result.expanded) (by decide +kernel)
  rw [Bool.and_eq_true, Bool.not_eq_true'] at test
  obtain ⟨after, its, kept⟩ := trust_kept_iff id digest costly workspace trusted.calculateScore rfl
    w' result ran
  refine ⟨w', result, after, ran, its, kept.mpr ⟨fun _ => by decide +kernel, fun expanded => ?_⟩⟩
  rw [test.2] at expanded
  cases expanded

end Constants

end BurnLens.Autonomy
