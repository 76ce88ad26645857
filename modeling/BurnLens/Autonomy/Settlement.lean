import BurnLens.Autonomy.Baselines
import BurnLens.Autonomy.Envelope

/-! # Settlement

What the stored plan of a cycle says once the cycle has returned or raised.
-/

namespace BurnLens.Autonomy

open Library hiding lower
open Trust Verification Program

variable {Switcher : Type}

def Active (c : Cycle) (w : World) : Prop :=
  ∃ plan ∈ w.plans, plan.planId = c.planId ∧ plan.canaryStatus = .canaryActive

/-- The plan, if it was saved, is rolled back, or expanded after a PASS verdict. -/
def Settled (c : Cycle) (w : World) : Prop :=
  ∀ plan ∈ w.plans, plan.planId = c.planId →
    plan.canaryStatus = .rolledBack ∨ plan.canaryStatus = .verifiedExpanded ∧
      ∃ record ∈ w.verification.records,
        record.verificationId = c.verificationId ∧ record.verdict = .pass

/-- What the arguments must be for the pending operation, and the code that follows it up to
    the next one, not to raise. -/
def Prepared (h : Hashing) (c : Cycle) (p : Call Reply) : Prop :=
  match p.pending with
  | some (.recordAuditEvent event) => event.entry.stage = .canaryAct → 0 < c.baselineRequests
  | some (.verification (.saveBaselineSnapshot _)) =>
    storable c.baselineRequests ∧ storable c.baselineAcceptedOutcomes
  | some (.verification (.getBaselineSnapshot ..)) => h.Intact c.baseline.snapshot
  | some (.verification (.saveVerificationRecord _)) => storable c.postChangeRequests
  | _ => True

/-- The cycle does not raise while its plan is stored as active. -/
def Undisturbed (h : Hashing) (c : Cycle) (s : Calls (Option Switcher)) :
    Move (Option Switcher) Raised → Prop
  | .advance none => Prepared h c (s.program none)
  | .fail none _ => ¬ Active c s.world
  | _ => True

/-- The row of the cycle's baseline is found, and its count of requests fits its column. -/
def Observed (h : Hashing) (c : Cycle) (store : VerificationStore) : Prop :=
  store.snapshots.find? (SnapshotRow.isOf c.recommendationId c.workspaceId) =
      some (h.row c.baseline.snapshot) ∧
    storable c.baselineRequests = true

/-- What holds of the world before each operation of the cycle, and at its end. -/
structure OnCourse (h : Hashing) (c : Cycle) (w : World) (p : Call Reply) : Prop where
  finished : p.pending = none → Settled c w
  observing : ∀ event next, p = .await (.recordAuditEvent event) next →
    event.entry.stage = .canaryAct → Active c w ∧
      (c.baselineRequests ≤ 0 → ∀ answer, ∃ error, next answer = .raised error)
  recording : ∀ snapshot next, p = .await (.verification (.saveBaselineSnapshot snapshot)) next →
    Active c w ∧ snapshot = c.baseline.snapshot
  reading : ∀ recommendationId workspaceId next,
    p = .await (.verification (.getBaselineSnapshot recommendationId workspaceId)) next →
      Active c w ∧ recommendationId = c.recommendationId ∧ workspaceId = c.workspaceId ∧
        Observed h c w.verification
  certifying : ∀ record next, p = .await (.verification (.saveVerificationRecord record)) next →
    Active c w ∧ record.sampleCountPostChange = c.postChangeRequests

/-- The cycle relies on the plans and the verification store being its own. -/
def settling (h : Hashing) (c : Cycle) : Contract World Op Answer Raised Reply where
  rely _ w w' := w'.plans = w.plans ∧ w'.verification = w.verification
  good := OnCourse h c
  mayAdvance _ p := Prepared h c p
  mayFail w _ := ¬ Active c w
  refl _ _ := ⟨rfl, rfl⟩
  trans _ _ _ _ first second := ⟨second.1.trans first.1, second.2.trans first.2⟩

/-- An assertion about the plans and the verification store. -/
def Framed (assertion : World → Prop) : Prop :=
  ∀ w w', w'.plans = w.plans → w'.verification = w.verification → assertion w → assertion w'

def Untouched (c : Cycle) (w : World) : Prop := ∀ plan ∈ w.plans, plan.planId ≠ c.planId

section

variable {h : Hashing} {c : Cycle} {w w' : World} {assertion : World → Prop}

theorem framed_settled : Framed (Settled c) := by
  intro w w' plans verification settled
  rw [Settled, plans, verification]
  exact settled

theorem framed_untouched : Framed (Untouched c) := by
  intro w w' plans _ untouched
  rw [Untouched, plans]
  exact untouched

theorem framed_active (fact : VerificationStore → Prop) :
    Framed fun w => Active c w ∧ fact w.verification := by
  rintro w w' plans verification ⟨active, holds⟩
  refine ⟨?_, verification ▸ holds⟩
  rw [Active, plans]
  exact active

theorem Untouched.settled (untouched : Untouched c w) : Settled c w :=
  fun plan member its => absurd its (untouched plan member)

theorem Settled.not_active (settled : Settled c w) : ¬ Active c w := by
  rintro ⟨plan, member, its, active⟩
  have status := settled plan member its
  rw [active] at status
  obtain rolledBack | ⟨expanded, -⟩ := status
  · cases rolledBack
  · cases expanded

theorem onCourse_finished {p : Call Reply} (settled : Settled c w) (ended : p.pending = none) :
    OnCourse h c w p := by
  refine ⟨fun _ => settled, ?_, ?_, ?_, ?_⟩
  · rintro _ _ rfl; cases ended
  · rintro _ _ rfl; cases ended
  · rintro _ _ _ rfl; cases ended
  · rintro _ _ rfl; cases ended

theorem settling_done {reply : Reply} (settled : Settled c w) :
    (settling h c).Always (handle h) (done reply) w :=
  fun _ rely => onCourse_finished (framed_settled w _ rely.1 rely.2 settled) rfl

theorem settling_rests (settled : Settled c w) (error : Raised) :
    (settling h c).Rests (raised error) w :=
  fun _ rely => onCourse_finished (framed_settled w _ rely.1 rely.2 settled) rfl

theorem onCourse_other {op : Op} {next : Answer op → Call Reply}
    (observing : ∀ event, op = .recordAuditEvent event → event.entry.stage ≠ .canaryAct)
    (recording : ∀ snapshot, op ≠ .verification (.saveBaselineSnapshot snapshot))
    (reading : ∀ recommendationId workspaceId,
      op ≠ .verification (.getBaselineSnapshot recommendationId workspaceId))
    (certifying : ∀ record, op ≠ .verification (.saveVerificationRecord record)) :
    OnCourse h c w (.await op next) where
  finished ended := by cases ended
  observing event next' same stage := by
    cases same
    exact absurd stage (observing event rfl)
  recording snapshot next' same := by
    cases same
    exact absurd rfl (recording snapshot)
  reading recommendationId workspaceId next' same := by
    cases same
    exact absurd rfl (reading recommendationId workspaceId)
  certifying record next' same := by
    cases same
    exact absurd rfl (certifying record)

theorem onCourse_log {event : AuditEvent} {next : Unit → Call Reply}
    (other : event.entry.stage ≠ .canaryAct) : OnCourse h c w (.await (.recordAuditEvent event) next) := by
  apply onCourse_other
  · rintro event' ⟨⟩
    exact other
  · rintro snapshot ⟨⟩
  · rintro _ _ ⟨⟩
  · rintro record ⟨⟩

theorem onCourse_trust {op : Trust.Op} {next : Trust.Answer op → Call Reply} :
    OnCourse h c w (.await (.trust op) next) := by
  apply onCourse_other
  · rintro event ⟨⟩
  · rintro snapshot ⟨⟩
  · rintro _ _ ⟨⟩
  · rintro record ⟨⟩

theorem settling_calm {op : Op} {next : Answer op → Call Reply} (framed : Framed assertion)
    (settled : ∀ w, assertion w → Settled c w) (holds : assertion w)
    (course : ∀ w, OnCourse h c w (.await op next))
    (step : ∀ w w' answer, assertion w → handle h w op = .ok (w', answer) →
      (settling h c).Always (handle h) (next answer) w') :
    (settling h c).Always (handle h) (.await op next) w := by
  apply Contract.Always.await assertion holds
  · exact fun w w' rely holds => framed w w' rely.1 rely.2 holds
  · exact fun w _ => course w
  · exact fun w w' answer holds _ => step w w' answer holds
  · exact fun w error holds _ _ => settling_rests (settled w holds) error
  · exact fun w error holds _ => settling_rests (settled w holds) error

/-- The rule while the plan is active: the operation must not raise. -/
theorem settling_active {op : Op} {next : Answer op → Call Reply}
    (fact : VerificationStore → Prop) (holds : Active c w ∧ fact w.verification)
    (course : ∀ w, Active c w → fact w.verification → OnCourse h c w (.await op next))
    (works : ∀ w error, fact w.verification → Prepared h c (.await op next) →
      handle h w op ≠ .error error)
    (step : ∀ w w' answer, Active c w → fact w.verification → Prepared h c (.await op next) →
      handle h w op = .ok (w', answer) → (settling h c).Always (handle h) (next answer) w') :
    (settling h c).Always (handle h) (.await op next) w := by
  apply Contract.Always.await (fun w => Active c w ∧ fact w.verification) holds
  · exact fun w w' rely holds => framed_active fact w w' rely.1 rely.2 holds
  · exact fun w holds => course w holds.1 holds.2
  · exact fun w w' answer holds prepared => step w w' answer holds.1 holds.2 prepared
  · exact fun w error holds prepared refused => absurd refused (works w error holds.2 prepared)
  · exact fun w error holds idle => absurd holds.1 idle

theorem settling_log {timeline : List AuditEntry} {stage : AutonomousLoopStage} {action : Str}
    {details : Fields} {k : List AuditEntry → Call Reply} (framed : Framed assertion)
    (settled : ∀ w, assertion w → Settled c w) (holds : assertion w) (other : stage ≠ .canaryAct)
    (rest : ∀ timeline w, assertion w → (settling h c).Always (handle h) (k timeline) w) :
    (settling h c).Always (handle h) (c.log timeline stage action details >>= k) w := by
  apply settling_calm framed settled holds
  · exact fun w => onCourse_log other
  intro w w' _ holds recorded
  cases recorded
  exact rest _ _ (framed w _ rfl rfl holds)

theorem settling_log_active {timeline : List AuditEntry} {stage : AutonomousLoopStage}
    {action : Str} {details : Fields} {k : List AuditEntry → Call Reply}
    (fact : VerificationStore → Prop) (holds : Active c w ∧ fact w.verification)
    (other : stage ≠ .canaryAct)
    (rest : ∀ timeline w, Active c w ∧ fact w.verification →
      (settling h c).Always (handle h) (k timeline) w) :
    (settling h c).Always (handle h) (c.log timeline stage action details >>= k) w := by
  apply settling_active fact holds
  · exact fun w _ _ => onCourse_log other
  · rintro w error _ _ ⟨⟩
  intro w w' _ active its _ recorded
  cases recorded
  exact rest _ _ ⟨active, its⟩

theorem settling_trust {op : Trust.Op} {next : Trust.Answer op → Call Reply}
    (framed : Framed assertion) (settled : ∀ w, assertion w → Settled c w) (holds : assertion w)
    (rest : ∀ answer w, assertion w → (settling h c).Always (handle h) (next answer) w) :
    (settling h c).Always (handle h) (.await (.trust op) next) w := by
  apply settling_calm framed settled holds
  · exact fun w => onCourse_trust
  intro w w' answer holds handled
  obtain ⟨store, -, rfl⟩ := handle_trust handled
  exact rest answer _ (framed w _ rfl rfl holds)

theorem settled_set {status : CanaryStatus}
    (final : status = .rolledBack ∨ status = .verifiedExpanded ∧
      ∃ record ∈ w.verification.records,
        record.verificationId = c.verificationId ∧ record.verdict = .pass) :
    Settled c { w with plans := w.setStatus c.planId status } := by
  intro plan member its
  obtain ⟨before, -, rfl⟩ := List.mem_map.mp member
  split_ifs at its ⊢ with same
  · exact final
  · exact absurd its same

variable {k : AutonomousLoopResult → Call Reply}

def Recorded (c : Cycle) (verdict : VerificationVerdict) (store : VerificationStore) : Prop :=
  ∃ record ∈ store.records, record.verificationId = c.verificationId ∧ record.verdict = verdict

theorem settling_settle {verification : SavingsVerificationRecord} {timeline : List AuditEntry}
    (holds : Active c w ∧ Recorded c verification.verdict w.verification)
    (rest : ∀ result w, Settled c w → (settling h c).Always (handle h) (k result) w) :
    (settling h c).Always (handle h) (c.settle verification timeline >>= k) w := by
  have finish : ∀ e timeline stage action details w, Settled c w → stage ≠ .canaryAct →
      ∀ action' (details' : AgentTrustProfile → Fields),
      (settling h c).Always (handle h) (c.log timeline stage action details >>= fun timeline =>
        Call.ofTrust (evaluateAgentTrust e) >>= fun profile =>
          c.log timeline .trustUpdate action' (details' profile) >>= fun timeline =>
            k (c.settled verification profile timeline)) w := by
    intro e timeline stage action details w settled other action' details'
    apply settling_log framed_settled (fun _ settled => settled) settled other
    intro timeline w settled
    apply settling_trust framed_settled (fun _ settled => settled) settled
    intro _ w settled
    apply settling_log framed_settled (fun _ settled => settled) settled
    · rintro ⟨⟩
    · exact fun timeline w settled => rest _ w settled
  rw [Cycle.settle]
  split
  · next pass =>
    simp only [Program.bind_assoc, perform_bind, await_bind, pure_eq, done_bind]
    apply settling_active (Recorded c verification.verdict) holds
    · intro w _ _
      apply onCourse_other
      · rintro event ⟨⟩
      · rintro snapshot ⟨⟩
      · rintro _ _ ⟨⟩
      · rintro record ⟨⟩
    · rintro w error _ _ ⟨⟩
    intro w w' _ _ recorded _ updated
    cases updated
    apply finish
    · exact settled_set (Or.inr ⟨rfl, pass ▸ recorded⟩)
    · rintro ⟨⟩
  · simp only [Program.bind_assoc, perform_bind, await_bind, pure_eq, done_bind]
    apply settling_active (Recorded c verification.verdict) holds
    · intro w _ _
      apply onCourse_other
      · rintro event ⟨⟩
      · rintro snapshot ⟨⟩
      · rintro _ _ ⟨⟩
      · rintro record ⟨⟩
    · rintro w error _ _ ⟨⟩
    intro w w' _ _ _ _ updated
    cases updated
    apply finish
    · exact settled_set (Or.inl rfl)
    · rintro ⟨⟩

theorem Observed.read {store : VerificationStore} (observed : Observed h c store)
    (intact : h.Intact c.baseline.snapshot) :
    h.getBaselineSnapshot store c.recommendationId c.workspaceId =
      .ok (some c.baseline.snapshot.asRead) := by
  simp only [Hashing.getBaselineSnapshot, observed.1]
  exact if_neg (not_not.mpr intact)

theorem Observed.tampered {store : VerificationStore} (observed : Observed h c store)
    (broken : ¬ h.Intact c.baseline.snapshot) :
    ∃ error, h.getBaselineSnapshot store c.recommendationId c.workspaceId = .error error := by
  simp only [Hashing.getBaselineSnapshot, observed.1]
  exact ⟨_, if_pos broken⟩

theorem settling_verify {timeline : List AuditEntry} (positive : 0 < c.baselineRequests)
    (holds : Active c w ∧ Observed h c w.verification)
    (rest : ∀ result w, Settled c w → (settling h c).Always (handle h) (k result) w) :
    (settling h c).Always (handle h) (c.verify h timeline >>= k) w := by
  have sampled : 0 < c.observation.minSampleSize := by
    show (0 : Int) < 10
    omega
  obtain ⟨record, computed, its, baselineCount, postCount⟩ :
      ∃ record, c.observation.certify h c.baseline.snapshot.asRead = .ok record ∧
        record.verificationId = c.verificationId ∧
        record.sampleCountBaseline = c.baselineRequests ∧
        record.sampleCountPostChange = c.postChangeRequests :=
    Observation.certify_ok positive sampled
  simp only [Cycle.verify, Program.bind_assoc]
  apply settling_active (Observed h c) holds
  · intro w active observed
    constructor
    · rintro ⟨⟩
    · rintro event next ⟨⟩
    · rintro snapshot next ⟨⟩
    · rintro _ _ next ⟨⟩
      exact ⟨active, rfl, rfl, observed⟩
    · rintro record next ⟨⟩
  · intro w error observed prepared refused
    simp only [handle, Hashing.handle] at refused
    have found : h.getBaselineSnapshot w.verification c.observation.recommendationId
        c.observation.workspaceId = .ok (some c.baseline.snapshot.asRead) := observed.read prepared
    rw [found] at refused
    cases refused
  intro w w' found active observed prepared read
  obtain ⟨store, answered, rfl⟩ := handle_verification read
  obtain ⟨rfl, got⟩ := handle_get answered
  obtain rfl : found = some c.baseline.snapshot.asRead :=
    Except.ok.inj (got.symm.trans (observed.read prepared))
  show (settling h c).Always (handle h) (Call.ofVerification
    (Verification.saveCertified (c.observation.certify h c.baseline.snapshot.asRead)) >>= _) w
  rw [computed]
  apply settling_active (Observed h c) ⟨active, observed⟩
  · intro w active _
    constructor
    · rintro ⟨⟩
    · rintro event next ⟨⟩
    · rintro snapshot next ⟨⟩
    · rintro _ _ next ⟨⟩
    · rintro record' next ⟨⟩
      exact ⟨active, postCount⟩
  · intro w error observed prepared refused
    have fits : storable record.sampleCountBaseline = true ∧
        storable record.sampleCountPostChange = true := by
      rw [baselineCount, postCount]
      exact ⟨observed.2, prepared⟩
    simp only [handle, Hashing.handle, if_pos fits] at refused
    cases refused
  intro w w' _ active observed prepared saved
  have recorded : Recorded c record.verdict w'.verification := by
    obtain ⟨store, inserted, rfl⟩ := handle_verification saved
    simp only [Hashing.handle] at inserted
    split at inserted
    · cases inserted
      exact ⟨record, mem_insertOrReplace.mpr (Or.inr rfl), its, rfl⟩
    · cases inserted
  have active' : Active c w' := by
    obtain ⟨store, -, rfl⟩ := handle_verification saved
    exact active
  apply settling_log_active (Recorded c record.verdict) ⟨active', recorded⟩
  · rintro ⟨⟩
  · exact fun timeline w holds => settling_settle holds rest

theorem settling_observe {timeline : List AuditEntry} (positive : 0 < c.baselineRequests)
    (active : Active c w)
    (rest : ∀ result w, Settled c w → (settling h c).Always (handle h) (k result) w) :
    (settling h c).Always (handle h) (c.observe h timeline >>= k) w := by
  have some_ : ¬ c.baseline.baselineRequests ≤ 0 := not_le.mpr positive
  simp only [Cycle.observe, recordBaseline, Program.bind_assoc, if_neg some_]
  apply settling_active (fun _ => True) ⟨active, trivial⟩
  · intro w active _
    constructor
    · rintro ⟨⟩
    · rintro event next ⟨⟩
    · rintro snapshot next ⟨⟩
      exact ⟨active, rfl⟩
    · rintro _ _ next ⟨⟩
    · rintro record next ⟨⟩
  · intro w error _ prepared refused
    have fits : storable c.baseline.snapshot.baselineRequests = true ∧
        storable c.baseline.snapshot.baselineAcceptedOutcomes = true := prepared
    simp only [handle, Hashing.handle, if_pos fits] at refused
    cases refused
  intro w w' _ active _ prepared saved
  have fits : storable c.baseline.snapshot.baselineRequests = true ∧
      storable c.baseline.snapshot.baselineAcceptedOutcomes = true := prepared
  have added : w'.verification.snapshots = insertOrReplace SnapshotRow.clashes
      w.verification.snapshots (h.row c.baseline.snapshot) := by
    obtain ⟨store, inserted, rfl⟩ := handle_verification saved
    simp only [Hashing.handle, if_pos fits] at inserted
    cases inserted
    rfl
  have active' : Active c w' := by
    obtain ⟨store, -, rfl⟩ := handle_verification saved
    exact active
  apply settling_log_active (Observed h c) ⟨active', find?_saved added, fits.1⟩
  · rintro ⟨⟩
  · exact fun timeline w holds => settling_verify positive holds rest

theorem settling_deploy {timeline : List AuditEntry} (untouched : Untouched c w)
    (rest : ∀ result w, Settled c w → (settling h c).Always (handle h) (k result) w) :
    (settling h c).Always (handle h) (c.deploy h timeline >>= k) w := by
  simp only [Cycle.deploy, Program.bind_assoc, perform_bind, await_bind]
  apply settling_calm framed_untouched (fun _ untouched => untouched.settled) untouched
  · intro w
    apply onCourse_other
    · rintro event ⟨⟩
    · rintro snapshot ⟨⟩
    · rintro _ _ ⟨⟩
    · rintro record ⟨⟩
  intro w w' _ _ saved
  have active : Active c w' := by
    cases saved
    exact ⟨c.plan, mem_insertOrReplace.mpr (Or.inr rfl), rfl, rfl⟩
  -- the last log before the baseline is recorded
  apply settling_active (fun _ => True) ⟨active, trivial⟩
  · intro w active _
    constructor
    · rintro ⟨⟩
    · rintro event next ⟨⟩ _
      refine ⟨active, fun none_ _ => ?_⟩
      have refused : c.baseline.baselineRequests ≤ 0 := none_
      simp only [Cycle.observe, recordBaseline, if_pos refused]
      exact ⟨_, rfl⟩
    · rintro snapshot next ⟨⟩
    · rintro _ _ next ⟨⟩
    · rintro record next ⟨⟩
  · rintro w error _ _ ⟨⟩
  intro w w' _ active _ prepared recorded
  cases recorded
  exact settling_observe (prepared rfl) active rest

theorem settling_checkAutonomyEligibility {lower : Str → Str} {a : Action}
    {k : AutonomyEligibilityCheck → Call Reply} (untouched : Untouched c w)
    (rest : ∀ check w, Untouched c w → (settling h c).Always (handle h) (k check) w) :
    (settling h c).Always (handle h) (Call.ofTrust (checkAutonomyEligibility lower a) >>= k) w := by
  have calm : ∀ w, Untouched c w → Settled c w := fun _ untouched => untouched.settled
  apply settling_trust framed_untouched calm untouched
  intro stored w untouched
  cases stored with
  | none =>
    apply settling_trust framed_untouched calm untouched
    intro _ w untouched
    exact settling_trust framed_untouched calm untouched fun _ w untouched => rest _ w untouched
  | some profile =>
    exact settling_trust framed_untouched calm untouched fun _ w untouched => rest _ w untouched

theorem settling_execute {lower : Str → Str} (untouched : Untouched c w)
    (rest : ∀ result w, Settled c w → (settling h c).Always (handle h) (k result) w) :
    (settling h c).Always (handle h) (c.execute lower h >>= k) w := by
  have calm : ∀ w, Untouched c w → Settled c w := fun _ untouched => untouched.settled
  have log : ∀ {timeline stage action details w} {k : List AuditEntry → Call Reply},
      Untouched c w → stage ≠ .canaryAct →
      (∀ timeline w, Untouched c w → (settling h c).Always (handle h) (k timeline) w) →
      (settling h c).Always (handle h) (c.log timeline stage action details >>= k) w :=
    fun untouched other rest => settling_log framed_untouched calm untouched other rest
  simp only [Cycle.execute, Cycle.checkPolicy, perform_bind, await_bind]
  apply settling_calm framed_untouched calm untouched
  · intro w
    apply onCourse_other
    · rintro event ⟨⟩
    · rintro snapshot ⟨⟩
    · rintro _ _ ⟨⟩
    · rintro record ⟨⟩
  intro w w' killSwitched untouched read
  cases read
  split
  · simp only [Program.bind_assoc, pure_eq, done_bind]
    apply log untouched
    · rintro ⟨⟩
    · exact fun timeline w untouched => rest _ w untouched.settled
  · simp only [Program.bind_assoc]
    apply log untouched
    · rintro ⟨⟩
    intro timeline w untouched
    apply log untouched
    · rintro ⟨⟩
    intro timeline w untouched
    apply log untouched
    · rintro ⟨⟩
    intro timeline w untouched
    apply settling_checkAutonomyEligibility untouched
    intro check w untouched
    split
    · simp only [Program.bind_assoc]
      apply log untouched
      · rintro ⟨⟩
      · exact fun timeline w untouched => settling_deploy untouched rest
    · simp only [Program.bind_assoc, pure_eq, done_bind]
      apply log untouched
      · rintro ⟨⟩
      · exact fun timeline w untouched => rest _ w untouched.settled

end

/-! ## Every run -/

variable {lower : Str → Str} {h : Hashing} {c : Cycle} {switches : Switcher → KillSwitch}

def settlement (h : Hashing) (c : Cycle) : Option Switcher → Contract World Op Answer Raised Reply
  | none => settling h c
  | some _ => switching

def OnCourseAll (h : Hashing) (c : Cycle) (s : Calls (Option Switcher)) : Prop :=
  ∀ i, (settlement h c i).Always (handle h) (s.program i) s.world

theorem onCourse_start {w : World} (untouched : Untouched c w) :
    OnCourseAll h c (start lower h w (beside c switches)) := by
  intro i
  cases i with
  | none => exact settling_execute untouched fun _ _ settled => settling_done settled
  | some i =>
    show switching.Always (handle h)
      ((Request.setWorkspaceKillSwitch (switches i)).program lower h) w
    exact switching_program (switches i)

variable [DecidableEq Switcher]

theorem onCourse_preserves :
    (pool (handle h)).Preserves (Undisturbed h c) fun s : Calls (Option Switcher) => OnCourseAll h c s := by
  refine Pool.preserves (settlement h c) (Undisturbed h c) ?_ ?_ ?_
  · intro s i w p always _ went j other
    cases j with
    | some j => trivial
    | none =>
      cases i with
      | none => exact absurd rfl other
      | some i =>
        obtain ⟨op, next, awaits, outcome⟩ := after_cases went
        have performs : (s.program (some i)).pending = some op := by rw [awaits]; rfl
        obtain ⟨switch, rfl⟩ := (always (some i)).good op performs
        obtain ⟨answer, handled, -⟩ | ⟨error, refused, -⟩ := outcome
        · cases handled; exact ⟨rfl, rfl⟩
        · cases refused
  · intro s i _ undisturbed
    cases i with
    | none => exact undisturbed
    | some i => trivial
  · intro s i error _ undisturbed
    cases i with
    | none => exact undisturbed
    | some i => trivial

/-- Once the cycle has returned or raised, its plan is settled. -/
def SettlesAfter (h : Hashing) (c : Cycle) (s : Calls (Option Switcher))
    (move : Move (Option Switcher) Raised) : Prop :=
  ∀ s', (pool (handle h)).step s move = some s' → (s'.program none).pending = none →
    Settled c s'.world

variable {s : Calls (Option Switcher)} {move : Move (Option Switcher) Raised}

theorem settlesAfter_of_undisturbed (onCourse : OnCourseAll h c s) (undisturbed : Undisturbed h c s move) :
    SettlesAfter h c s move :=
  fun s' stepped =>
    (onCourse_preserves s move s' onCourse undisturbed stepped none).good.finished

/-- Where the arguments are not prepared, the cycle raises and leaves the plan active. -/
theorem raises_of_unprepared {w : World} {p : Call Reply} (course : OnCourse h c w p)
    (unprepared : ¬ Prepared h c p) :
    Active c w ∧ ∃ w' error, after (handle h) w p = some (w', .raised error) ∧
      w'.plans = w.plans := by
  cases p with
  | done | raised => exact absurd trivial unprepared
  | await op next =>
    simp only [Prepared, pending] at unprepared
    split at unprepared
    · next event same =>
      cases same
      rw [Classical.not_imp] at unprepared
      obtain ⟨active, raises⟩ := course.observing event next rfl unprepared.1
      obtain ⟨error, raised⟩ := raises (not_lt.mp unprepared.2) ()
      refine ⟨active, { w with auditTrail := w.auditTrail ++ [event] }, error, ?_, rfl⟩
      simp only [after, handle, raised]
    · next snapshot same =>
      cases same
      obtain ⟨active, rfl⟩ := course.recording snapshot next rfl
      refine ⟨active, w, integerOverflow, ?_, rfl⟩
      have unfit : ¬ (storable c.baseline.snapshot.baselineRequests = true ∧
          storable c.baseline.snapshot.baselineAcceptedOutcomes = true) := unprepared
      simp only [after, handle, Hashing.handle, if_neg unfit, Except.map]
    · next recommendationId workspaceId same =>
      cases same
      obtain ⟨active, rfl, rfl, observed⟩ := course.reading recommendationId workspaceId next rfl
      obtain ⟨error, tampered⟩ := observed.tampered unprepared
      refine ⟨active, w, error, ?_, rfl⟩
      simp only [after, handle, Hashing.handle, tampered, Except.map]
    · next record same =>
      cases same
      obtain ⟨active, its⟩ := course.certifying record next rfl
      refine ⟨active, w, integerOverflow, ?_, rfl⟩
      have unfit : ¬ (storable record.sampleCountBaseline = true ∧
          storable record.sampleCountPostChange = true) := fun fits => unprepared (its ▸ fits.2)
      simp only [after, handle, Hashing.handle, if_neg unfit, Except.map]
    · exact absurd trivial unprepared

theorem undisturbed_of_settlesAfter (onCourse : OnCourseAll h c s) (settles : SettlesAfter h c s move) :
    Undisturbed h c s move := by
  have course : OnCourse h c s.world (s.program none) := (onCourse none).good
  cases move with
  | advance i =>
    cases i with
    | some i => trivial
    | none =>
      by_contra unprepared
      obtain ⟨⟨plan, member, its, active⟩, w, error, raises, plans⟩ :=
        raises_of_unprepared course unprepared
      have stepped : (pool (handle h)).step s (.advance none) =
          some (s.set none w (raised error)) := by
        simp only [pool, raises, Option.map_some]
      have settled := settles _ stepped (by simp [Pool.set, pending])
      exact settled.not_active ⟨plan, plans ▸ member, its, active⟩
  | fail i error =>
    cases i with
    | some i => trivial
    | none =>
      intro active
      cases at_ : s.program none with
      | done | raised => exact (course.finished (by rw [at_]; rfl)).not_active active
      | await op next =>
        have stepped : (pool (handle h)).step s (.fail none error) =
            some (s.set none s.world (raised error)) := by
          simp only [pool, at_, failed, Option.map_some]
        exact (settles _ stepped (by simp [Pool.set, pending])).not_active active

def World.withoutPlan (w : World) (planId : Str) : World :=
  { w with plans := w.plans.filter fun plan => plan.planId ≠ planId }

/-- No canary is left deployed if and only if the cycle does not raise while its plan is
    stored as active. -/
theorem canary_settled (lower : Str → Str) (h : Hashing) (c : Cycle)
    (switches : Switcher → KillSwitch) (w : World) (moves : List (Move (Option Switcher) Raised)) :
    (pool (handle h)).Guarded (SettlesAfter h c)
        (start lower h (w.withoutPlan c.planId) (beside c switches)) moves ↔
      (pool (handle h)).Guarded (Undisturbed h c)
        (start lower h (w.withoutPlan c.planId) (beside c switches)) moves := by
  apply (pool (handle h)).guarded_iff (OnCourseAll h c) _ onCourse_preserves
  · apply onCourse_start
    intro plan member
    simpa using (List.mem_filter.mp member).2
  · exact fun s move onCourse =>
      ⟨undisturbed_of_settlesAfter onCourse, settlesAfter_of_undisturbed onCourse⟩

section NoRequests

/-- A cycle without requests in its baseline. -/
def idle : Cycle := { routine 10 5 with baselineRequests := 0 }

/-- The cycle is over, and its plan is stored as active. -/
def abandoned (s : Calls (Option Unit)) : Bool :=
  (s.program none).pending.isNone ∧
    s.world.plans.any fun plan => plan.planId = idle.planId ∧ plan.canaryStatus = .canaryActive

/-- The plan is saved, and its baseline refused. -/
theorem canary_left_active :
    ¬ (pool (handle digest)).Guarded (SettlesAfter digest idle)
      (start id digest (workspace.withoutPlan idle.planId) (beside idle (switchOf "other")))
      (untilDeployment ++ [Move.advance none] ++ [Move.advance none]) := by
  intro settles
  have ran : ((pool (handle digest)).run
      (start id digest (workspace.withoutPlan idle.planId) (beside idle (switchOf "other")))
      (untilDeployment ++ [Move.advance none] ++ [Move.advance none])).any abandoned = true := by
    decide +kernel
  obtain ⟨s', reached, left⟩ := (Option.any_eq_true _ _).mp ran
  rw [Machine.run_concat] at reached
  obtain ⟨s, before, stepped⟩ := Option.bind_eq_some_iff.mp reached
  have settled := (pool (handle digest)).guarded_last settles before s' stepped
  obtain ⟨ended, active⟩ := of_decide_eq_true left
  obtain ⟨plan, member, its⟩ := List.any_eq_true.mp active
  obtain ⟨itsId, itsStatus⟩ := of_decide_eq_true its
  exact (settled (Option.isNone_iff_eq_none.mp ended)).not_active ⟨plan, member, itsId, itsStatus⟩

end NoRequests

end BurnLens.Autonomy
