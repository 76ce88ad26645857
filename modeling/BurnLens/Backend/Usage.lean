import BurnLens.Library.Fleet
import BurnLens.Library.Rounding
import BurnLens.Storage.Timestamps
import Mathlib.Algebra.Group.Prod
import Mathlib.Data.List.MinMax

/-! # Usage metering

`POST /v1/ingest` of one workspace on the PostgreSQL path: the quota gate, the bulk insert, and
`_record_usage_and_maybe_notify`, cut into their statements.  The limits are fixed, a
cycle is identified by its start, which is unique, and a timestamp is the number of
microseconds since 1970.
-/

namespace BurnLens.Backend

open Library Storage

/-! ## Records and cycles -/

/-- A record, as far as its usage goes. -/
structure RequestRecord where
  eventId : Str
  inputTokens : Int := 0
  outputTokens : Int := 0
  reasoningTokens : Int := 0
  costUsd : ℚ := 0
deriving DecidableEq

abbrev Usage := ℕ × ℤ × ℚ

def RequestRecord.tokens (r : RequestRecord) : Int :=
  r.inputTokens + r.outputTokens + r.reasoningTokens

def RequestRecord.usage (r : RequestRecord) : Usage := (1, r.tokens, r.costUsd)

structure Bounds where
  start : Int
  finish : Int
deriving DecidableEq

inductive Threshold where
  | eighty
  | hundred
deriving DecidableEq

/-- A row of `workspace_usage_cycles`. -/
structure UsageCycle where
  cycleStart : Int
  cycleEnd : Int
  requestCount : Nat := 0
  tokenCount : Int := 0
  spendUsd : ℚ := 0
  -- `notified_80_at` and `notified_100_at` are set
  notified80 : Bool := false
  notified100 : Bool := false
deriving DecidableEq

namespace UsageCycle

def bounds (row : UsageCycle) : Bounds := ⟨row.cycleStart, row.cycleEnd⟩

def usage (row : UsageCycle) : Usage := (row.requestCount, row.tokenCount, row.spendUsd)

def notified (row : UsageCycle) : Threshold → Bool
  | .eighty => row.notified80
  | .hundred => row.notified100

def add (row : UsageCycle) (usage : Usage) : UsageCycle :=
  { row with
    requestCount := row.requestCount + usage.1
    tokenCount := row.tokenCount + usage.2.1
    spendUsd := row.spendUsd + usage.2.2 }

def notify (row : UsageCycle) : Threshold → UsageCycle
  | .eighty => { row with notified80 := true }
  | .hundred => { row with notified100 := true }

end UsageCycle

/-- A row of `request_records`, with the cycle that was current when it was stored. -/
structure StoredRecord where
  record : RequestRecord
  cycle : Bounds
deriving DecidableEq

/-- One update of a counter: the records it counted, and what it found. -/
structure Metering where
  cycle : Int
  records : List RequestRecord
  before : Nat
deriving DecidableEq

def Metering.after (m : Metering) : Nat := m.before + m.records.length

structure UsageEmail where
  cycle : Bounds
  threshold : Threshold
  current : Nat
  limit : Int
deriving DecidableEq

/-- `resolve_limits`; `none` is unlimited. -/
structure ResolvedLimits where
  monthlyRequestCap : Option Int := none
  monthlyTokenCap : Option Int := none
  monthlySpendCapUsd : Option ℚ := none
  seatCount : Option Int := none

structure UsageWorld where
  now : UtcDateTime
  cycles : List UsageCycle := []
  records : List StoredRecord := []
  -- the active members of the workspace
  memberCount : Nat := 0
  -- the updates of the counters so far
  metered : List Metering := []
  emails : List UsageEmail := []

/-! ## Statements -/

/-- `date_trunc('month', now())`, and a month later. -/
def calendarMonth (now : UtcDateTime) : Bounds :=
  let start := (monthStart now).instant
  ⟨start, start + daysInMonth now.year now.month * 86400000000⟩

/-- The open cycle of a paid plan with the latest start. -/
def selectCycle (w : UsageWorld) : Option Bounds :=
  ((w.cycles.filter fun row => w.now.instant < row.cycleEnd).maxOn? UsageCycle.cycleStart).map
    UsageCycle.bounds

/-- The cycle that a call meters if nothing changes until it has chosen one. -/
def currentCycle (w : UsageWorld) (plan : Str) : Bounds :=
  if plan = "free" then calendarMonth w.now else (selectCycle w).getD (calendarMonth w.now)

def cycleAt (rows : List UsageCycle) (start : Int) : Option UsageCycle :=
  rows.find? fun row => row.cycleStart = start

def usageOf (rows : List UsageCycle) (start : Int) : Usage :=
  ((cycleAt rows start).map UsageCycle.usage).getD 0

def notifiedAt (rows : List UsageCycle) (start : Int) (t : Threshold) : Bool :=
  (cycleAt rows start).any fun row => row.notified t

/-- `INSERT ... ON CONFLICT (workspace_id, cycle_start) DO UPDATE`. -/
def upsertCycle (rows : List UsageCycle) (cycle : Bounds) (usage : Usage) : List UsageCycle :=
  if (cycleAt rows cycle.start).isSome then
    rows.map fun row => if row.cycleStart = cycle.start then row.add usage else row
  else rows ++ [({ cycleStart := cycle.start, cycleEnd := cycle.finish } : UsageCycle).add usage]

/-- The seed of a billing webhook: `ON CONFLICT DO NOTHING`. -/
def seedCycle (rows : List UsageCycle) (cycle : Bounds) : List UsageCycle :=
  if (cycleAt rows cycle.start).isSome then rows
  else rows ++ [{ cycleStart := cycle.start, cycleEnd := cycle.finish }]

def notifyCycle (rows : List UsageCycle) (start : Int) (t : Threshold) : List UsageCycle :=
  rows.map fun row => if row.cycleStart = start then row.notify t else row

/-- The insert of one record: `ON CONFLICT (workspace_id, event_id) DO NOTHING`. -/
def insertRecord (cycle : Bounds) (table : List StoredRecord) (r : RequestRecord) :
    List StoredRecord :=
  if table.any fun stored => stored.record.eventId = r.eventId then table
  else table ++ [⟨{ r with costUsd := numeric 8 r.costUsd }, cycle⟩]

/-- What a batch adds to a counter; the spend goes through the column. -/
def batchUsage (records : List RequestRecord) : Usage :=
  (records.length, (records.map RequestRecord.tokens).sum,
    numeric 8 (records.map RequestRecord.costUsd).sum)

/-- The threshold that a batch has crossed; the upper one takes precedence. -/
def crossed (cap : Int) (prev new : Int) : Option Threshold :=
  let pctPrev : ℚ := prev / cap
  let pctNew : ℚ := new / cap
  if pctPrev < 1 ∧ 1 ≤ pctNew then some .hundred
  else if pctPrev < 8 / 10 ∧ 8 / 10 ≤ pctNew then some .eighty
  else none

/-! ## Calls -/

structure Ingestion where
  -- as `get_workspace_by_api_key` returned it
  plan : Str
  records : List RequestRecord

/-- The statement that an ingestion is about to execute. -/
inductive UsagePhase where
  -- the quota gate: the limits, its cycle, the counters, the seats
  | limiting
  | gating
  | gatingMonth
  | touching (cycle : Bounds)
  | seating
  -- the bulk insert
  | storing
  -- the choice of a cycle; with the cycle that was current when the batch was stored
  | selecting (during : Bounds)
  | fallingBack (during : Bounds)
  -- the counter
  | metering (cycle : Bounds)
  | resolving (cycle : Bounds) (count : Nat)
  | claiming (threshold : Threshold) (cycle : Bounds) (count : Nat)
  | enqueueing (threshold : Threshold) (cycle : Bounds) (count : Nat)
  | answered
  -- 429
  | refused
deriving DecidableEq

namespace UsagePhase

def ended : UsagePhase → Bool
  | .answered | .refused => true
  | _ => false

def gate : UsagePhase → Bool
  | .limiting | .gating | .gatingMonth | .touching _ | .seating => true
  | _ => false

end UsagePhase

def capped (cap : Option Int) : Bool := cap.any fun cap => 0 < cap

section

variable (limits : Option ResolvedLimits)

def gateSeats (l : ResolvedLimits) : UsagePhase := if capped l.seatCount then .seating else .storing

def gateCycle : UsagePhase :=
  match limits with
  | none => .storing
  | some l =>
    if capped l.monthlyRequestCap || capped l.monthlyTokenCap ||
        l.monthlySpendCapUsd.any fun cap => 0 < cap then .gating
    else gateSeats l

/-- Does a counter of the cycle reach its cap? -/
def exhausted (l : ResolvedLimits) (row : UsageCycle) : Bool :=
  (l.monthlyRequestCap.any fun cap => 0 < cap ∧ cap ≤ (row.requestCount : Int)) ||
    (l.monthlyTokenCap.any fun cap => 0 < cap ∧ cap ≤ row.tokenCount) ||
    l.monthlySpendCapUsd.any fun cap => 0 < cap ∧ cap ≤ row.spendUsd

/-- The threshold that is left to claim once the limits are known. -/
def threshold (batch : Nat) (count : Nat) : Option Threshold :=
  match limits.bind ResolvedLimits.monthlyRequestCap with
  | none => none
  | some cap => if cap ≤ 0 then none else crossed cap (count - batch) count

def UsageWorld.ingest (w : UsageWorld) (call : Ingestion) :
    UsagePhase → Option (UsageWorld × UsagePhase)
  | .limiting => some (w, gateCycle limits)
  | .gating =>
    if call.plan = "free" then some (w, .touching (calendarMonth w.now))
    else
      match selectCycle w with
      | some cycle => some (w, .touching cycle)
      | none => some (w, .gatingMonth)
  | .gatingMonth => some (w, .touching (calendarMonth w.now))
  | .touching cycle =>
    let cycles := upsertCycle w.cycles cycle 0
    match limits, cycleAt cycles cycle.start with
    | some l, some row =>
      some ({ w with cycles }, if exhausted l row then .refused else gateSeats l)
    | _, _ => some ({ w with cycles }, .storing)
  | .seating =>
    match limits.bind ResolvedLimits.seatCount with
    | some seatCount => some (w, if seatCount < w.memberCount then .refused else .storing)
    | none => some (w, .storing)
  | .storing =>
    let cycle := currentCycle w call.plan
    some ({ w with records := call.records.foldl (insertRecord cycle) w.records },
      .selecting cycle)
  | .selecting during =>
    if call.plan = "free" then some (w, .metering (calendarMonth w.now))
    else
      match selectCycle w with
      | some cycle => some (w, .metering cycle)
      | none => some (w, .fallingBack during)
  | .fallingBack _ => some (w, .metering (calendarMonth w.now))
  | .metering cycle =>
    let cycles := upsertCycle w.cycles cycle (batchUsage call.records)
    let metered :=
      w.metered ++ [⟨cycle.start, call.records, (usageOf w.cycles cycle.start).1⟩]
    match cycleAt cycles cycle.start with
    | some row => some ({ w with cycles, metered }, .resolving cycle row.requestCount)
    | none => some ({ w with cycles, metered }, .answered)
  | .resolving cycle count =>
    match threshold limits call.records.length count with
    | some t => some (w, .claiming t cycle count)
    | none => some (w, .answered)
  | .claiming t cycle count =>
    -- `UPDATE ... WHERE id = $1 AND notified_..._at IS NULL RETURNING id`
    if (cycleAt w.cycles cycle.start).isSome && !notifiedAt w.cycles cycle.start t then
      some ({ w with cycles := notifyCycle w.cycles cycle.start t }, .enqueueing t cycle count)
    else some (w, .answered)
  | .enqueueing t cycle count =>
    let limit := ((limits.bind ResolvedLimits.monthlyRequestCap).getD 0)
    some ({ w with emails := w.emails ++ [⟨cycle, t, count, limit⟩] }, .answered)
  | .answered | .refused => none

/-- What happens meanwhile: time passes, a webhook seeds a cycle, members come and go. -/
inductive UsageEvent where
  | tick (now : UtcDateTime)
  | seed (cycle : Bounds)
  | staff (memberCount : Nat)

def UsageWorld.happen (w : UsageWorld) : UsageEvent → UsageWorld
  | .tick now => { w with now }
  | .seed cycle => { w with cycles := seedCycle w.cycles cycle }
  | .staff memberCount => { w with memberCount }

def usageRoutes : Routes UsageWorld Ingestion UsagePhase UsageEvent where
  advance := UsageWorld.ingest limits
  happen := UsageWorld.happen

abbrev UsageState := Fleet UsageWorld Ingestion UsagePhase

abbrev UsageLabel := FleetLabel UsageEvent

def usageMachine : Machine UsageState UsageLabel := (usageRoutes limits).machine

end

/-! ## The counters of a cycle -/

variable {rows : List UsageCycle} {cycle : Bounds} {start : Int} {usage : Usage} {t : Threshold}

@[simp] theorem UsageCycle.usage_add (row : UsageCycle) (usage : Usage) :
    (row.add usage).usage = row.usage + usage := rfl

@[simp] theorem UsageCycle.notified_add (row : UsageCycle) (usage : Usage) (t : Threshold) :
    (row.add usage).notified t = row.notified t := by cases t <;> rfl

@[simp] theorem UsageCycle.usage_notify (row : UsageCycle) (t : Threshold) :
    (row.notify t).usage = row.usage := by cases t <;> rfl

theorem UsageCycle.notified_notify (row : UsageCycle) (t t' : Threshold) :
    (row.notify t').notified t = (row.notified t || decide (t = t')) := by
  cases t <;> cases t' <;> simp [notify, notified]

theorem cycleAt_append (row : UsageCycle) :
    cycleAt (rows ++ [row]) start =
      (cycleAt rows start).or (if row.cycleStart = start then some row else none) := by
  rw [cycleAt, List.find?_append, List.find?_singleton]
  simp only [cycleAt, decide_eq_true_eq]

theorem cycleAt_map (f : UsageCycle → UsageCycle)
    (keyed : ∀ row, (f row).cycleStart = row.cycleStart) (at_ : Int) :
    cycleAt (rows.map fun row => if row.cycleStart = at_ then f row else row) start =
      (cycleAt rows start).map fun row => if start = at_ then f row else row := by
  induction rows with
  | nil => rfl
  | cons row rows inductionHypothesis =>
    have same : (if row.cycleStart = at_ then f row else row).cycleStart = row.cycleStart := by
      split
      · exact keyed row
      · rfl
    simp only [cycleAt, List.map_cons, List.find?_cons, same] at inductionHypothesis ⊢
    by_cases found : row.cycleStart = start
    · simp [found]
    · simpa [found] using inductionHypothesis

theorem cycleAt_upsertCycle_isSome :
    (cycleAt (upsertCycle rows cycle usage) cycle.start).isSome := by
  unfold upsertCycle
  split
  · rename_i found
    rw [cycleAt_map (fun row => row.add usage) (fun _ => rfl)]
    simpa using found
  · simp [cycleAt_append, UsageCycle.add]

@[simp] theorem usageOf_upsertCycle :
    usageOf (upsertCycle rows cycle usage) start =
      usageOf rows start + if start = cycle.start then usage else 0 := by
  unfold upsertCycle usageOf
  split
  · rename_i found
    rw [cycleAt_map (fun row => row.add usage) (fun _ => rfl)]
    by_cases same : start = cycle.start
    · subst same
      obtain ⟨row, at_⟩ := Option.isSome_iff_exists.mp found
      simp [at_]
    · simp [same]
  · rename_i missing
    rw [cycleAt_append]
    by_cases same : start = cycle.start
    · subst same
      rw [Option.not_isSome_iff_eq_none] at missing
      simp [missing, UsageCycle.add, UsageCycle.usage]
    · simp [same, UsageCycle.add, Ne.symm same]

@[simp] theorem notifiedAt_upsertCycle :
    notifiedAt (upsertCycle rows cycle usage) start t = notifiedAt rows start t := by
  unfold upsertCycle notifiedAt
  split
  · rw [cycleAt_map (fun row => row.add usage) (fun _ => rfl)]
    cases cycleAt rows start <;> simp [apply_ite (fun row => UsageCycle.notified row t)]
  · rename_i missing
    rw [cycleAt_append]
    cases found : cycleAt rows start with
    | some row => simp
    | none => by_cases same : cycle.start = start <;> cases t <;>
        simp [same, UsageCycle.add, UsageCycle.notified]

@[simp] theorem usageOf_seedCycle : usageOf (seedCycle rows cycle) start = usageOf rows start := by
  unfold seedCycle usageOf
  split
  · rfl
  · rw [cycleAt_append]
    cases found : cycleAt rows start with
    | some row => simp
    | none => by_cases same : cycle.start = start <;> simp [same, UsageCycle.usage]

@[simp] theorem notifiedAt_seedCycle :
    notifiedAt (seedCycle rows cycle) start t = notifiedAt rows start t := by
  unfold seedCycle notifiedAt
  split
  · rfl
  · rw [cycleAt_append]
    cases found : cycleAt rows start with
    | some row => simp
    | none => by_cases same : cycle.start = start <;> cases t <;>
        simp [same, UsageCycle.notified]

@[simp] theorem usageOf_notifyCycle {at_ : Int} :
    usageOf (notifyCycle rows at_ t) start = usageOf rows start := by
  rw [notifyCycle, usageOf, cycleAt_map (fun row => row.notify t) (fun row => by cases t <;> rfl),
    usageOf]
  cases cycleAt rows start <;> simp [apply_ite UsageCycle.usage]

theorem notifiedAt_notifyCycle {at_ : Int} {t' : Threshold} :
    notifiedAt (notifyCycle rows at_ t') start t =
      (notifiedAt rows start t ||
        ((cycleAt rows start).isSome && decide (start = at_ ∧ t = t'))) := by
  rw [notifyCycle, notifiedAt, cycleAt_map (fun row => row.notify t') (fun row => by cases t' <;> rfl),
    notifiedAt]
  cases cycleAt rows start with
  | none => rfl
  | some row =>
    by_cases same : start = at_ <;> simp [same, UsageCycle.notified_notify]

/-! ## What a statement can do -/

/-- The statements of an ingestion, by what they do to the world and where they lead. -/
inductive Statement (limits : Option ResolvedLimits) (w : UsageWorld) (call : Ingestion) :
    UsagePhase → UsageWorld → UsagePhase → Prop
  | gate {phase next : UsagePhase} {cycles : List UsageCycle} (before : phase.gate = true)
      (after : next.gate = true ∨ next = .storing ∨ next = .refused)
      (counters : ∀ start, usageOf cycles start = usageOf w.cycles start)
      (notified : ∀ start t, notifiedAt cycles start t = notifiedAt w.cycles start t) :
      Statement limits w call phase { w with cycles } next
  | store : Statement limits w call .storing
      { w with records := call.records.foldl (insertRecord (currentCycle w call.plan)) w.records }
      (.selecting (currentCycle w call.plan))
  | select {during : Bounds} :
      Statement limits w call (.selecting during) w (.metering (currentCycle w call.plan))
  | miss {during : Bounds} :
      Statement limits w call (.selecting during) w (.fallingBack during)
  | fallBack {during : Bounds} :
      Statement limits w call (.fallingBack during) w (.metering (calendarMonth w.now))
  | meter {cycle : Bounds} : Statement limits w call (.metering cycle)
      { w with
        cycles := upsertCycle w.cycles cycle (batchUsage call.records)
        metered :=
          w.metered ++ [⟨cycle.start, call.records, (usageOf w.cycles cycle.start).1⟩] }
      (.resolving cycle ((usageOf w.cycles cycle.start).1 + call.records.length))
  | resolve {cycle : Bounds} {count : Nat} {t : Threshold}
      (crosses : threshold limits call.records.length count = some t) :
      Statement limits w call (.resolving cycle count) w (.claiming t cycle count)
  | below {cycle : Bounds} {count : Nat}
      (crosses : threshold limits call.records.length count = none) :
      Statement limits w call (.resolving cycle count) w .answered
  | claim {cycle : Bounds} {count : Nat} {t : Threshold}
      (row : (cycleAt w.cycles cycle.start).isSome)
      (unclaimed : notifiedAt w.cycles cycle.start t = false) :
      Statement limits w call (.claiming t cycle count)
        { w with cycles := notifyCycle w.cycles cycle.start t } (.enqueueing t cycle count)
  | claimed {cycle : Bounds} {count : Nat} {t : Threshold}
      (claimed : (cycleAt w.cycles cycle.start).isSome →
        notifiedAt w.cycles cycle.start t = true) :
      Statement limits w call (.claiming t cycle count) w .answered
  | enqueue {cycle : Bounds} {count : Nat} {t : Threshold} :
      Statement limits w call (.enqueueing t cycle count)
        { w with emails := w.emails ++
          [⟨cycle, t, count, (limits.bind ResolvedLimits.monthlyRequestCap).getD 0⟩] } .answered

variable {limits : Option ResolvedLimits} {w w' : UsageWorld} {call : Ingestion}
  {phase next : UsagePhase}

theorem gateSeats_cases (l : ResolvedLimits) :
    (gateSeats l).gate = true ∨ gateSeats l = .storing ∨ gateSeats l = .refused := by
  unfold gateSeats
  split
  · exact Or.inl rfl
  · exact Or.inr (Or.inl rfl)

theorem gateCycle_cases :
    (gateCycle limits).gate = true ∨ gateCycle limits = .storing ∨ gateCycle limits = .refused := by
  unfold gateCycle
  split
  · exact Or.inr (Or.inl rfl)
  · split
    · exact Or.inl rfl
    · exact gateSeats_cases _

theorem Statement.look (before : phase.gate = true)
    (after : next.gate = true ∨ next = .storing ∨ next = .refused) :
    Statement limits w call phase w next :=
  @Statement.gate _ w _ _ _ w.cycles before after (fun _ => rfl) fun _ _ => rfl

theorem cycleAt_meter (cycle : Bounds) (records : List RequestRecord) :
    ∃ row, cycleAt (upsertCycle w.cycles cycle (batchUsage records)) cycle.start = some row ∧
      row.requestCount = (usageOf w.cycles cycle.start).1 + records.length := by
  have present : (cycleAt (upsertCycle w.cycles cycle (batchUsage records)) cycle.start).isSome :=
    cycleAt_upsertCycle_isSome
  obtain ⟨row, found⟩ := Option.isSome_iff_exists.mp present
  refine ⟨row, found, ?_⟩
  have counts : usageOf (upsertCycle w.cycles cycle (batchUsage records)) cycle.start = _ :=
    usageOf_upsertCycle
  rw [usageOf, found, if_pos rfl] at counts
  exact congrArg Prod.fst counts

theorem ingest_statement (went : w.ingest limits call phase = some (w', next)) :
    Statement limits w call phase w' next := by
  cases phase with
  | limiting =>
    cases went
    exact .look rfl gateCycle_cases
  | gating =>
    simp only [UsageWorld.ingest] at went
    split at went
    · cases went
      exact .look rfl (Or.inl rfl)
    · split at went <;> cases went <;> exact .look rfl (Or.inl rfl)
  | gatingMonth =>
    cases went
    exact .look rfl (Or.inl rfl)
  | touching cycle =>
    have counters : ∀ start, usageOf (upsertCycle w.cycles cycle 0) start =
        usageOf w.cycles start := by simp
    have notified : ∀ start t, notifiedAt (upsertCycle w.cycles cycle 0) start t =
        notifiedAt w.cycles start t := by simp
    simp only [UsageWorld.ingest] at went
    split at went
    · cases went
      refine .gate rfl ?_ counters notified
      split
      · exact Or.inr (Or.inr rfl)
      · exact gateSeats_cases _
    · cases went
      exact .gate rfl (Or.inr (Or.inl rfl)) counters notified
  | seating =>
    simp only [UsageWorld.ingest] at went
    split at went
    · cases went
      refine .look rfl ?_
      split
      · exact Or.inr (Or.inr rfl)
      · exact Or.inr (Or.inl rfl)
    · cases went
      exact .look rfl (Or.inr (Or.inl rfl))
  | storing =>
    cases went
    exact .store
  | selecting during =>
    simp only [UsageWorld.ingest] at went
    split at went
    · rename_i free
      have current : currentCycle w call.plan = calendarMonth w.now := by
        rw [currentCycle, if_pos free]
      cases went
      exact current ▸ .select
    · rename_i paid
      split at went
      · rename_i cycle found
        have current : currentCycle w call.plan = cycle := by
          rw [currentCycle, if_neg paid, found, Option.getD_some]
        cases went
        exact current ▸ .select
      · cases went
        exact .miss
  | fallingBack during =>
    cases went
    exact .fallBack
  | metering cycle =>
    obtain ⟨row, found, counts⟩ := cycleAt_meter (w := w) cycle call.records
    simp only [UsageWorld.ingest, found, counts] at went
    cases went
    exact .meter
  | resolving cycle count =>
    simp only [UsageWorld.ingest] at went
    split at went
    · rename_i crosses
      cases went
      exact .resolve crosses
    · rename_i crosses
      cases went
      exact .below crosses
  | claiming t cycle count =>
    simp only [UsageWorld.ingest] at went
    split at went
    · rename_i free
      cases went
      simp only [Bool.and_eq_true, Bool.not_eq_true'] at free
      exact .claim free.1 free.2
    · rename_i taken
      cases went
      refine .claimed fun row => ?_
      simpa [row] using taken
  | enqueueing t cycle count =>
    cases went
    exact .enqueue
  | answered => cases went
  | refused => cases went

end BurnLens.Backend
