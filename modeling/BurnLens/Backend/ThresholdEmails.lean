import BurnLens.Backend.Metering
import Mathlib.Tactic.Linarith

/-! # The emails at 80 and 100 percent

Each update of a counter takes it from the count it found to the count it returned, so that the
updates of a cycle tile the line from 0: at most one of them crosses a threshold.  The ingestion
that crossed claims the notification, which nobody else has a claim to.
-/

namespace BurnLens.Backend

open Library Storage

/-! ## Crossing a threshold -/

/-- The count at which a threshold is reached. -/
def Threshold.at (cap : Int) : Threshold → ℚ
  | .eighty => 8 / 10 * cap
  | .hundred => cap

/-- Does an update take the counter of a cycle over `x`? -/
def Metering.passes (start : Int) (x : ℚ) (m : Metering) : Bool :=
  m.cycle = start ∧ m.before < x ∧ x ≤ m.after

/-- Does an update cross a threshold of its cycle? -/
def Metering.crosses (cap start : Int) (t : Threshold) (m : Metering) : Bool :=
  m.cycle = start ∧ crossed cap m.before m.after = some t

theorem crossed_hundred {cap prev new : Int} (positive : 0 < cap) :
    crossed cap prev new = some .hundred ↔ (prev : ℚ) < cap ∧ (cap : ℚ) ≤ new := by
  have cap0 : (0 : ℚ) < cap := by exact_mod_cast positive
  simp only [crossed, div_lt_one cap0, one_le_div cap0]
  by_cases full : (prev : ℚ) < cap ∧ (cap : ℚ) ≤ new
  · simp [full]
  · simp only [full, if_false, iff_false]
    split <;> simp

theorem crossed_eighty {cap prev new : Int} (positive : 0 < cap) :
    crossed cap prev new = some .eighty ↔
      (prev : ℚ) < 8 / 10 * cap ∧ 8 / 10 * cap ≤ (new : ℚ) ∧ (new : ℚ) < cap := by
  have cap0 : (0 : ℚ) < cap := by exact_mod_cast positive
  simp only [crossed, div_lt_one cap0, one_le_div cap0, div_lt_iff₀ cap0, le_div_iff₀ cap0]
  constructor
  · intro eighty
    split at eighty
    · cases eighty
    · rename_i below
      split at eighty
      · rename_i crosses
        refine ⟨crosses.1, crosses.2, not_le.mp fun full => below ⟨?_, full⟩⟩
        linarith [crosses.1]
      · cases eighty
  · rintro ⟨before, after, below⟩
    rw [if_neg fun full => absurd full.2 (not_le.mpr below), if_pos ⟨before, after⟩]

theorem Metering.passes_of_crosses {cap start : Int} (positive : 0 < cap) {t : Threshold}
    {m : Metering} (crosses : m.crosses cap start t = true) : m.passes start (t.at cap) = true := by
  simp only [Metering.crosses, decide_eq_true_eq] at crosses
  simp only [Metering.passes, decide_eq_true_eq]
  refine ⟨crosses.1, ?_⟩
  cases t with
  | eighty =>
    obtain ⟨before, after, -⟩ := (crossed_eighty positive).mp crosses.2
    exact ⟨by exact_mod_cast before, by exact_mod_cast after⟩
  | hundred =>
    obtain ⟨before, after⟩ := (crossed_hundred positive).mp crosses.2
    simp only [Threshold.at]
    exact ⟨by exact_mod_cast before, by exact_mod_cast after⟩

/-! ## Who has a claim -/

/-- An ingestion that has crossed a threshold and not claimed it. -/
def pending (limits : Option ResolvedLimits) (start : Int) (t : Threshold) (call : Ingestion) :
    UsagePhase → Nat
  | .resolving cycle count =>
    if cycle.start = start ∧ threshold limits call.records.length count = some t then 1 else 0
  | .claiming t' cycle _ => if cycle.start = start ∧ t' = t then 1 else 0
  | _ => 0

/-- An ingestion that has claimed a threshold and not sent the email. -/
def won (start : Int) (t : Threshold) (_ : Ingestion) : UsagePhase → Nat
  | .enqueueing t' cycle _ => if cycle.start = start ∧ t' = t then 1 else 0
  | _ => 0

def UsageWorld.emailsOf (w : UsageWorld) (start : Int) (t : Threshold) : Nat :=
  w.emails.countP fun email => email.cycle.start = start ∧ email.threshold = t

def UsageWorld.count (w : UsageWorld) (start : Int) : Nat := (usageOf w.cycles start).1

structure EmailInvariant (limits : Option ResolvedLimits) (cap : Int) (s : UsageState) : Prop where
  tiles : ∀ start (x : ℚ), 0 < x → s.world.metered.countP (Metering.passes start x) =
    if x ≤ s.world.count start then 1 else 0
  claims : ∀ start t, total (pending limits start t) s.calls + total (won start t) s.calls +
    s.world.emailsOf start t = s.world.metered.countP (Metering.crosses cap start t)
  notified : ∀ start t, total (won start t) s.calls + s.world.emailsOf start t =
    if notifiedAt s.world.cycles start t then 1 else 0

variable {limits : Option ResolvedLimits} {cap : Int} {s s' : UsageState} {w : UsageWorld}
  {k : Nat} {call : Ingestion} {phase next : UsagePhase}

theorem Threshold.at_pos (positive : 0 < cap) (t : Threshold) : 0 < t.at cap := by
  have cap0 : (0 : ℚ) < cap := by exact_mod_cast positive
  cases t with
  | eighty => exact mul_pos (by norm_num) cap0
  | hundred => exact cap0

/-- A threshold is crossed at most once, and only where the counter has reached it. -/
theorem EmailInvariant.crosses_le (invariant : EmailInvariant limits cap s) (positive : 0 < cap)
    (start : Int) (t : Threshold) :
    s.world.metered.countP (Metering.crosses cap start t) ≤
      if t.at cap ≤ s.world.count start then 1 else 0 := by
  rw [← invariant.tiles start (t.at cap) (t.at_pos positive)]
  exact List.countP_mono_left fun m _ crosses => Metering.passes_of_crosses positive crosses

theorem EmailInvariant.quiet (invariant : EmailInvariant limits cap s)
    (found : s.calls[k]? = some (call, phase)) (metered : w.metered = s.world.metered)
    (emails : w.emails = s.world.emails)
    (counters : ∀ start, usageOf w.cycles start = usageOf s.world.cycles start)
    (notified : ∀ start t, notifiedAt w.cycles start t = notifiedAt s.world.cycles start t)
    (waits : ∀ start t, pending limits start t call next = pending limits start t call phase)
    (wins : ∀ start t, won start t call next = won start t call phase) :
    EmailInvariant limits cap ⟨w, s.calls.set k (call, next)⟩ := by
  have samePending : ∀ start t, total (pending limits start t) (s.calls.set k (call, next)) =
      total (pending limits start t) s.calls := by
    intro start t
    have moved := total_set (pending limits start t) found next
    rw [waits] at moved
    exact add_right_cancel moved
  have sameWon : ∀ start t, total (won start t) (s.calls.set k (call, next)) =
      total (won start t) s.calls := by
    intro start t
    have moved := total_set (won start t) found next
    rw [wins] at moved
    exact add_right_cancel moved
  constructor
  · intro start x positive
    simp only [metered, UsageWorld.count, counters]
    exact invariant.tiles start x positive
  · intro start t
    simp only [metered, UsageWorld.emailsOf, emails, samePending, sameWon]
    exact invariant.claims start t
  · intro start t
    simp only [UsageWorld.emailsOf, emails, sameWon, notified]
    exact invariant.notified start t

theorem EmailInvariant.tile (invariant : EmailInvariant limits cap s) (cycle : Bounds)
    (records : List RequestRecord) (start : Int) (x : ℚ) (above : 0 < x) :
    List.countP (Metering.passes start x)
        (s.world.metered ++ [⟨cycle.start, records, s.world.count cycle.start⟩]) =
      if x ≤ ((s.world.count start + if start = cycle.start then records.length else 0 : Nat) : ℚ)
        then 1 else 0 := by
  have grows : (0 : ℚ) ≤ records.length := Nat.cast_nonneg _
  rw [List.countP_append, invariant.tiles start x above, List.countP_singleton, Metering.passes,
    Metering.after]
  by_cases same : cycle.start = start
  · subst same
    simp only [true_and, decide_eq_true_eq, if_true]
    push_cast
    by_cases already : x ≤ (s.world.count cycle.start : ℚ)
    · rw [if_pos already, if_neg fun passes => absurd already (not_le.mpr passes.1),
        if_pos (by linarith)]
    · simp only [already, not_le.mp already, true_and, if_false, zero_add]
  · simp [same, Ne.symm same]

/-- An update of a counter: its ingestion has a claim to what it has crossed. -/
theorem EmailInvariant.meter (invariant : EmailInvariant limits cap s) (positive : 0 < cap)
    (capped : limits.bind ResolvedLimits.monthlyRequestCap = some cap) {cycle : Bounds}
    (found : s.calls[k]? = some (call, .metering cycle)) :
    EmailInvariant limits cap ⟨{ s.world with
      cycles := upsertCycle s.world.cycles cycle (batchUsage call.records)
      metered := s.world.metered ++ [⟨cycle.start, call.records, s.world.count cycle.start⟩] },
      s.calls.set k
        (call, .resolving cycle (s.world.count cycle.start + call.records.length))⟩ := by
  constructor
  · intro start x above
    have counts : UsageWorld.count { s.world with
        cycles := upsertCycle s.world.cycles cycle (batchUsage call.records)
        metered := s.world.metered ++ [⟨cycle.start, call.records, s.world.count cycle.start⟩] }
        start = s.world.count start + if start = cycle.start then call.records.length else 0 := by
      rw [UsageWorld.count, usageOf_upsertCycle, Prod.fst_add, UsageWorld.count]
      split <;> rfl
    rw [counts]
    exact invariant.tile cycle call.records start x above
  · intro start t
    have waits := total_set (pending limits start t) found
      (.resolving cycle (s.world.count cycle.start + call.records.length))
    have wins := total_set (won start t) found
      (.resolving cycle (s.world.count cycle.start + call.records.length))
    have claims := invariant.claims start t
    have crosses : pending limits start t call
        (.resolving cycle (s.world.count cycle.start + call.records.length)) =
        if Metering.crosses cap start t
          ⟨cycle.start, call.records, s.world.count cycle.start⟩ then 1 else 0 := by
      simp [pending, threshold, capped, not_le.mpr positive, Metering.crosses, Metering.after]
    simp only [List.countP_append, List.countP_singleton, UsageWorld.emailsOf] at claims ⊢
    rw [← crosses, ← claims]
    simp only [pending, won] at waits wins ⊢
    omega
  · intro start t
    have wins := total_set (won start t) found
      (.resolving cycle (s.world.count cycle.start + call.records.length))
    simp only [won, add_zero] at wins
    rw [wins, notifiedAt_upsertCycle]
    exact invariant.notified start t

theorem EmailInvariant.claim (invariant : EmailInvariant limits cap s) {cycle : Bounds}
    {count : Nat} {t : Threshold} (found : s.calls[k]? = some (call, .claiming t cycle count))
    (row : (cycleAt s.world.cycles cycle.start).isSome)
    (unclaimed : notifiedAt s.world.cycles cycle.start t = false) :
    EmailInvariant limits cap ⟨{ s.world with
      cycles := notifyCycle s.world.cycles cycle.start t },
      s.calls.set k (call, .enqueueing t cycle count)⟩ := by
  constructor
  · intro start x positive
    simp only [UsageWorld.count, usageOf_notifyCycle]
    exact invariant.tiles start x positive
  · intro start t'
    have waits := total_set (pending limits start t') found (.enqueueing t cycle count)
    have wins := total_set (won start t') found (.enqueueing t cycle count)
    have claims := invariant.claims start t'
    simp only [pending, won, UsageWorld.emailsOf] at waits wins claims ⊢
    omega
  · intro start t'
    have wins := total_set (won start t') found (.enqueueing t cycle count)
    have notified := invariant.notified start t'
    simp only [won, UsageWorld.emailsOf] at wins notified ⊢
    rw [notifiedAt_notifyCycle]
    by_cases its : cycle.start = start ∧ t = t'
    · obtain ⟨rfl, rfl⟩ := its
      simp only [and_self, if_true] at wins
      simp only [unclaimed, Bool.false_eq_true, if_false] at notified
      simp only [row, unclaimed, Bool.false_or, Bool.true_and, and_self, decide_true, if_true]
      omega
    · have other : ¬ (start = cycle.start ∧ t' = t) := fun e => its ⟨e.1.symm, e.2.symm⟩
      simp only [its, if_false] at wins
      simp only [other, decide_false, Bool.and_false, Bool.or_false]
      omega

/-- Nobody else has a claim to a threshold that one is waiting to claim. -/
theorem EmailInvariant.not_claimed (invariant : EmailInvariant limits cap s) (positive : 0 < cap)
    {cycle : Bounds} {count : Nat} {t : Threshold}
    (found : s.calls[k]? = some (call, .claiming t cycle count)) :
    (cycleAt s.world.cycles cycle.start).isSome ∧
      notifiedAt s.world.cycles cycle.start t = false := by
  have waits : pending limits cycle.start t call (.claiming t cycle count) ≤
      total (pending limits cycle.start t) s.calls := part_le_total _ (List.mem_of_getElem? found)
  have claims := invariant.claims cycle.start t
  have notified := invariant.notified cycle.start t
  have once := invariant.crosses_le positive cycle.start t
  simp only [pending, and_self, if_true] at waits
  split at once
  · rename_i reached
    refine ⟨?_, ?_⟩
    · by_contra missing
      rw [Option.not_isSome_iff_eq_none] at missing
      rw [UsageWorld.count, usageOf, missing] at reached
      exact absurd reached (not_le.mpr (by exact_mod_cast t.at_pos positive))
    · cases claimed : notifiedAt s.world.cycles cycle.start t with
      | false => rfl
      | true =>
        rw [claimed, if_pos rfl] at notified
        omega
  · omega

theorem EmailInvariant.enqueue (invariant : EmailInvariant limits cap s) {cycle : Bounds}
    {count : Nat} {limit : Int} {t : Threshold}
    (found : s.calls[k]? = some (call, .enqueueing t cycle count)) :
    EmailInvariant limits cap ⟨{ s.world with emails := s.world.emails ++ [⟨cycle, t, count, limit⟩] },
      s.calls.set k (call, .answered)⟩ := by
  have sent : ∀ start t', UsageWorld.emailsOf
      { s.world with emails := s.world.emails ++ [⟨cycle, t, count, limit⟩] } start t' =
      s.world.emailsOf start t' + won start t' call (.enqueueing t cycle count) := by
    intro start t'
    simp [UsageWorld.emailsOf, won]
  constructor
  · exact invariant.tiles
  · intro start t'
    have waits := total_set (pending limits start t') found .answered
    have wins := total_set (won start t') found .answered
    have claims := invariant.claims start t'
    rw [sent]
    simp only [pending, won] at waits wins ⊢
    omega
  · intro start t'
    have wins := total_set (won start t') found .answered
    have notified := invariant.notified start t'
    rw [sent]
    simp only [won] at wins ⊢
    omega

theorem EmailInvariant.advance (invariant : EmailInvariant limits cap s) (positive : 0 < cap)
    (capped : limits.bind ResolvedLimits.monthlyRequestCap = some cap)
    (found : s.calls[k]? = some (call, phase)) (statement : Statement limits s.world call phase w next) :
    EmailInvariant limits cap ⟨w, s.calls.set k (call, next)⟩ := by
  cases statement with
  | gate before after counters notified =>
    have idle : ∀ start t, pending limits start t call next = 0 ∧ won start t call next = 0 := by
      intro start t
      obtain gate | rfl | rfl := after
      · cases next <;> first | exact ⟨rfl, rfl⟩ | cases gate
      · exact ⟨rfl, rfl⟩
      · exact ⟨rfl, rfl⟩
    have was : ∀ start t, pending limits start t call phase = 0 ∧ won start t call phase = 0 := by
      intro start t
      cases phase <;> first | exact ⟨rfl, rfl⟩ | cases before
    exact invariant.quiet found rfl rfl counters notified
      (fun start t => (idle start t).1.trans (was start t).1.symm)
      (fun start t => (idle start t).2.trans (was start t).2.symm)
  | store | select | miss | fallBack =>
    exact invariant.quiet found rfl rfl (fun _ => rfl) (fun _ _ => rfl) (fun _ _ => rfl)
      fun _ _ => rfl
  | meter => exact invariant.meter positive capped found
  | resolve crosses =>
    exact invariant.quiet found rfl rfl (fun _ => rfl) (fun _ _ => rfl)
      (fun start t => by simp [pending, crosses]) fun _ _ => rfl
  | below crosses =>
    exact invariant.quiet found rfl rfl (fun _ => rfl) (fun _ _ => rfl)
      (fun start t => by simp [pending, crosses]) fun _ _ => rfl
  | claim row unclaimed => exact invariant.claim found row unclaimed
  | claimed taken =>
    obtain ⟨row, unclaimed⟩ := invariant.not_claimed positive found
    rw [taken row] at unclaimed
    cases unclaimed
  | enqueue => exact invariant.enqueue found

theorem EmailInvariant.happen (invariant : EmailInvariant limits cap s) (event : UsageEvent) :
    EmailInvariant limits cap { s with world := s.world.happen event } := by
  cases event with
  | tick now => exact ⟨invariant.tiles, invariant.claims, invariant.notified⟩
  | seed cycle =>
    refine ⟨fun start x positive => ?_, invariant.claims, fun start t => ?_⟩
    · simp only [UsageWorld.happen, UsageWorld.count, usageOf_seedCycle]
      exact invariant.tiles start x positive
    · simp only [UsageWorld.happen, notifiedAt_seedCycle]
      exact invariant.notified start t
  | staff n => exact ⟨invariant.tiles, invariant.claims, invariant.notified⟩

/-- An ingestion that has not come to its counter. -/
def UsagePhase.early : UsagePhase → Bool
  | .resolving _ _ | .claiming _ _ _ | .enqueueing _ _ _ => false
  | _ => true

theorem EmailInvariant.fresh (fresh : s.Fresh)
    (early : ∀ call phase, (call, phase) ∈ s.calls → phase.early = true) :
    EmailInvariant limits cap s := by
  have idle : ∀ start t, total (pending limits start t) s.calls = 0 ∧
      total (won start t) s.calls = 0 := by
    intro start t
    constructor
    · apply total_eq_zero
      intro call phase member
      have its := early call phase member
      cases phase <;> first | rfl | cases its
    · apply total_eq_zero
      intro call phase member
      have its := early call phase member
      cases phase <;> first | rfl | cases its
  constructor
  · intro start x positive
    rw [fresh.metered, UsageWorld.count, fresh.counters, if_neg (not_le.mpr (by simpa using positive))]
    rfl
  · intro start t
    rw [(idle start t).1, (idle start t).2, UsageWorld.emailsOf, fresh.emails, fresh.metered]
    rfl
  · intro start t
    rw [(idle start t).2, UsageWorld.emailsOf, fresh.emails, fresh.notified]
    rfl

theorem emailInvariant_run (positive : 0 < cap)
    (capped : limits.bind ResolvedLimits.monthlyRequestCap = some cap) {labels : List UsageLabel}
    (start : EmailInvariant limits cap s) (ran : (usageMachine limits).run s labels = some s') :
    EmailInvariant limits cap s' := by
  refine (usageMachine limits).run_invariant ?_ start ran
  intro s label s' invariant stepped
  have preserves : (usageMachine limits).Preserves
      (Fleet.Meets (fun _ _ _ => True) fun _ _ => True) (EmailInvariant limits cap) := by
    apply Routes.preserves
    · intro s k call phase w next invariant found _ went
      exact invariant.advance positive capped found (ingest_statement went)
    · exact fun s event invariant _ => invariant.happen event
  refine preserves s label s' invariant ?_ stepped
  cases label with
  | advance k => exact fun _ _ => trivial
  | happen event => trivial

/-- When the ingestions have ended, the emails are the crossings. -/
theorem EmailInvariant.emails_eq (invariant : EmailInvariant limits cap s) (ended : s.Ended)
    (start : Int) (t : Threshold) :
    s.world.emailsOf start t = s.world.metered.countP (Metering.crosses cap start t) := by
  have waits : total (pending limits start t) s.calls = 0 := by
    apply total_eq_zero
    intro call phase member
    have done := ended call phase member
    cases phase <;> first | rfl | cases done
  have wins : total (won start t) s.calls = 0 := by
    apply total_eq_zero
    intro call phase member
    have done := ended call phase member
    cases phase <;> first | rfl | cases done
  rw [← invariant.claims start t, waits, wins, Nat.zero_add]

theorem crosses_hundred_eq (positive : 0 < cap) (metered : List Metering) (start : Int) :
    metered.countP (Metering.crosses cap start .hundred) =
      metered.countP (Metering.passes start cap) := by
  congr 1
  funext m
  simp only [Metering.crosses, Metering.passes, crossed_hundred positive, Int.cast_natCast]

theorem crosses_eighty (positive : 0 < cap) (metered : List Metering) (start : Int) :
    (∃ m ∈ metered, Metering.crosses cap start .eighty m = true) ↔
      ∃ m ∈ metered, m.cycle = start ∧ (m.before : ℚ) < 8 / 10 * cap ∧
        8 / 10 * cap ≤ (m.after : ℚ) ∧ (m.after : ℚ) < cap := by
  simp only [Metering.crosses, decide_eq_true_eq, crossed_eighty positive, Int.cast_natCast]

/-- Exactly one email at the crossing: in a cycle that starts from 0, whatever ingestions
    meter into it in whatever order of their statements, one email says 100 percent if the final
    count reaches the cap and none otherwise, at most one says 80 percent, and it is there if and
    only if an update took the count from below 80 percent to at least 80 and less than 100. -/
theorem threshold_emails (limits : Option ResolvedLimits) (cap : Int) (s s' : UsageState)
    (labels : List UsageLabel) (cycle : Int) (positive : 0 < cap)
    (capped : limits.bind ResolvedLimits.monthlyRequestCap = some cap) (fresh : s.Fresh)
    (early : ∀ call phase, (call, phase) ∈ s.calls → phase.early = true)
    (ran : (usageMachine limits).run s labels = some s') (ended : s'.Ended) :
    (s'.world.emailsOf cycle .hundred = if cap ≤ s'.world.count cycle then 1 else 0) ∧
      s'.world.emailsOf cycle .eighty ≤ 1 ∧
      (s'.world.emailsOf cycle .eighty = 1 ↔ ∃ m ∈ s'.world.metered, m.cycle = cycle ∧
        (m.before : ℚ) < 8 / 10 * cap ∧ 8 / 10 * cap ≤ (m.after : ℚ) ∧ (m.after : ℚ) < cap) := by
  have invariant := emailInvariant_run positive capped (.fresh fresh early) ran
  have sent := invariant.emails_eq ended cycle
  refine ⟨?_, ?_, ?_⟩
  · rw [sent, crosses_hundred_eq positive, invariant.tiles cycle cap (by exact_mod_cast positive)]
    norm_cast
  · have once := invariant.crosses_le positive cycle .eighty
    rw [sent]
    split at once <;> omega
  · have once := invariant.crosses_le positive cycle .eighty
    rw [sent, ← crosses_eighty positive, ← List.countP_pos_iff]
    split at once <;> omega

def capOfTen : ResolvedLimits := { monthlyRequestCap := some 10 }

/-- Batches of seven and of four records, on the free plan, that are to be metered. -/
def sevenAndFour : UsageState where
  world := { now := marchMoment }
  calls := [7, 4].map fun n =>
    (⟨"free", List.replicate n { eventId := "e" }⟩, .selecting march)

/-- Both counters are updated before either threshold is claimed. -/
def countersFirst : List UsageLabel :=
  [.advance 0, .advance 1, .advance 0, .advance 1, .advance 1, .advance 0, .advance 1, .advance 1]

def bothMetered : UsageState :=
  ((usageMachine (some capOfTen)).run sevenAndFour countersFirst).get (by decide +kernel)

theorem threshold_emails_of_two :
    (bothMetered.world.emailsOf march.start .hundred =
        if (10 : Int) ≤ bothMetered.world.count march.start then 1 else 0) ∧
      bothMetered.world.emailsOf march.start .eighty ≤ 1 ∧
      (bothMetered.world.emailsOf march.start .eighty = 1 ↔
        ∃ m ∈ bothMetered.world.metered, m.cycle = march.start ∧
          (m.before : ℚ) < 8 / 10 * (10 : Int) ∧ 8 / 10 * (10 : Int) ≤ (m.after : ℚ) ∧
          (m.after : ℚ) < (10 : Int)) :=
  threshold_emails (some capOfTen) 10 sevenAndFour bothMetered countersFirst march.start
    (by decide) rfl ⟨rfl, rfl, rfl, fun _ => rfl, fun _ _ => rfl⟩
    (by
      intro call phase member
      have early : sevenAndFour.calls.all fun c => c.2.early := by decide
      exact List.all_eq_true.mp early (call, phase) member)
    (Option.some_get _).symm
    (by
      intro call phase member
      have ended : bothMetered.calls.all fun c => c.2.ended := by decide +kernel
      exact List.all_eq_true.mp ended (call, phase) member)

end BurnLens.Backend
