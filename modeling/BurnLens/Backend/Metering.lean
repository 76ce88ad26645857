import BurnLens.Backend.Usage
import Mathlib.Algebra.BigOperators.Group.Multiset.Basic
import Mathlib.Data.Multiset.OrderedMonoid

/-! # What the counters of a cycle count

The bulk insert stores a record once, by its event id, and the counter takes the batch as it was
sent.  As long as every batch is new when it is stored, and meters the cycle it was stored in,
the records stored are those counted and those of the ingestions that are between their insert
and their counter.
-/

namespace BurnLens.Backend

open Library Storage

/-! ## Statements -/

/-- The records stored, each with the start of its cycle. -/
def UsageWorld.stored (w : UsageWorld) : Multiset (RequestRecord × Int) :=
  w.records.map fun stored => (stored.record, stored.cycle.start)

/-- The records counted, each with the start of the cycle that counted it. -/
def UsageWorld.counted (w : UsageWorld) : Multiset (RequestRecord × Int) :=
  w.metered.flatMap fun m => m.records.map fun r => (r, m.cycle)

/-- What a list of records amounts to in a cycle. -/
def usageIn (start : Int) (records : Multiset (RequestRecord × Int)) : Usage :=
  ((records.filter fun r => r.2 = start).map fun r => r.1.usage).sum

/-- Replay-safe: the counters of every cycle are those of the distinct records stored in it,
    and no record is counted in two cycles. -/
structure ReplaySafe (w : UsageWorld) : Prop where
  distinct : (w.records.map fun stored => stored.record.eventId).Nodup
  counters : ∀ start, usageOf w.cycles start = usageIn start w.stored
  once : ∀ r r' start start', (r, start) ∈ w.counted → (r', start') ∈ w.counted →
    r.eventId = r'.eventId → start = start'

/-- A workspace that has stored nothing yet; webhooks may have seeded cycles. -/
structure UsageState.Fresh (s : UsageState) : Prop where
  records : s.world.records = []
  metered : s.world.metered = []
  emails : s.world.emails = []
  counters : ∀ start, usageOf s.world.cycles start = 0
  notified : ∀ start t, notifiedAt s.world.cycles start t = false

def UsageState.Ended (s : UsageState) : Prop :=
  ∀ call phase, (call, phase) ∈ s.calls → phase.ended = true

/-- A batch is new: no event id of it is stored, or comes twice, and the cost column takes its
    costs as they are. -/
def newBatch (table : List StoredRecord) (records : List RequestRecord) : Prop :=
  (records.map RequestRecord.eventId).Nodup ∧
    ∀ r ∈ records, Decimal 8 r.costUsd ∧
      ∀ stored ∈ table, stored.record.eventId ≠ r.eventId

instance (table : List StoredRecord) (records : List RequestRecord) :
    Decidable (newBatch table records) :=
  inferInstanceAs (Decidable (_ ∧ _))

/-- A batch is new when it is stored, and when its cycle is chosen, the one that was current at
    the insert still is. -/
def meteredAtOnce (w : UsageWorld) (call : Ingestion) : UsagePhase → Prop
  | .storing => newBatch w.records call.records
  | .selecting during => currentCycle w call.plan = during
  | .fallingBack during => calendarMonth w.now = during
  | _ => True

instance (w : UsageWorld) (call : Ingestion) :
    (phase : UsagePhase) → Decidable (meteredAtOnce w call phase)
  | .storing => inferInstanceAs (Decidable (newBatch w.records call.records))
  | .selecting during => inferInstanceAs (Decidable (currentCycle w call.plan = during))
  | .fallingBack during => inferInstanceAs (Decidable (calendarMonth w.now = during))
  | .limiting | .gating | .gatingMonth | .touching _ | .seating | .metering _ | .resolving _ _
  | .claiming _ _ _ | .enqueueing _ _ _ | .answered | .refused => inferInstanceAs (Decidable True)

/-! ## Batches -/

variable {table : List StoredRecord} {records : List RequestRecord} {cycle : Bounds}

theorem foldl_insertRecord (new : newBatch table records) :
    records.foldl (insertRecord cycle) table = table ++ records.map fun r => ⟨r, cycle⟩ := by
  induction records generalizing table with
  | nil => simp
  | cons r records inductionHypothesis =>
    obtain ⟨nodup, each⟩ := new
    obtain ⟨decimal, absent⟩ := each r List.mem_cons_self
    rw [List.map_cons, List.nodup_cons] at nodup
    have inserted : insertRecord cycle table r = table ++ [⟨r, cycle⟩] := by
      have missing : (table.any fun stored => stored.record.eventId = r.eventId) = false := by
        simpa [List.any_eq_false] using absent
      simp [insertRecord, missing, decimal.numeric_eq]
    rw [List.foldl_cons, inserted, inductionHypothesis, List.map_cons, List.append_assoc]
    · rfl
    · refine ⟨nodup.2, fun r' member => ⟨(each r' (List.mem_cons_of_mem r member)).1, ?_⟩⟩
      intro stored at_
      obtain at_ | same := List.mem_append.mp at_
      · exact (each r' (List.mem_cons_of_mem r member)).2 stored at_
      · obtain rfl := List.mem_singleton.mp same
        intro clash
        exact nodup.1 (List.mem_map.mpr ⟨r', member, clash.symm⟩)

/-- What the counter takes of a batch whose costs fit the column: the usage of its records. -/
theorem batchUsage_eq (decimal : ∀ r ∈ records, Decimal 8 r.costUsd) :
    batchUsage records = (records.map RequestRecord.usage).sum := by
  have spend : Decimal 8 (records.map RequestRecord.costUsd).sum := by
    apply Decimal.sum
    intro x member
    obtain ⟨r, at_, rfl⟩ := List.mem_map.mp member
    exact decimal r at_
  rw [batchUsage, spend.numeric_eq]
  clear decimal spend
  induction records with
  | nil => rfl
  | cons r records inductionHypothesis =>
    rw [List.map_cons (f := RequestRecord.usage), List.sum_cons, ← inductionHypothesis]
    simp [RequestRecord.usage, add_comm]

theorem usageIn_add (start : Int) (a b : Multiset (RequestRecord × Int)) :
    usageIn start (a + b) = usageIn start a + usageIn start b := by
  rw [usageIn, Multiset.filter_add, Multiset.map_add, Multiset.sum_add]
  rfl

@[simp] theorem usageIn_zero (start : Int) : usageIn start 0 = 0 := rfl

/-- A batch amounts to its usage in its own cycle, and to nothing in another. -/
theorem usageIn_batch (start at_ : Int) :
    usageIn start (records.map fun r => (r, at_) : List (RequestRecord × Int)) =
      if start = at_ then (records.map RequestRecord.usage).sum else 0 := by
  split
  · rename_i same
    subst same
    simp [usageIn, List.filter_map, Function.comp_def]
  · rename_i other
    simp [usageIn, List.filter_map, Function.comp_def, Ne.symm other]

/-! ## The invariant -/

/-- The records that an ingestion has stored and not counted. -/
def owed (call : Ingestion) : UsagePhase → Multiset (RequestRecord × Int)
  | .selecting during | .fallingBack during => call.records.map fun r => (r, during.start)
  | .metering cycle => call.records.map fun r => (r, cycle.start)
  | _ => 0

structure UsageInvariant (s : UsageState) : Prop where
  stored : s.world.stored = s.world.counted + total owed s.calls
  distinct : (s.world.records.map fun stored => stored.record.eventId).Nodup
  decimal : ∀ stored ∈ s.world.records, Decimal 8 stored.record.costUsd
  counters : ∀ start, usageOf s.world.cycles start = usageIn start s.world.counted

variable {limits : Option ResolvedLimits} {s s' : UsageState}

theorem UsageInvariant.owed_decimal (invariant : UsageInvariant s) {call : Ingestion}
    {phase : UsagePhase} (member : (call, phase) ∈ s.calls) {r : RequestRecord} {start : Int}
    (owes : (r, start) ∈ owed call phase) : Decimal 8 r.costUsd := by
  have summand : owed call phase ≤ total owed s.calls := part_le_total owed member
  have at_ : (r, start) ∈ s.world.stored := by
    rw [invariant.stored]
    exact Multiset.mem_add.mpr (Or.inr (Multiset.mem_of_le summand owes))
  obtain ⟨stored, found, same⟩ := List.mem_map.mp (Multiset.mem_coe.mp at_)
  cases same
  exact invariant.decimal stored found

/-- Where the statement of an ingestion touches neither a record nor a count. -/
theorem UsageInvariant.quiet (invariant : UsageInvariant s) {k : Nat} {call : Ingestion}
    {phase next : UsagePhase} {w : UsageWorld} (found : s.calls[k]? = some (call, phase))
    (records : w.records = s.world.records) (metered : w.metered = s.world.metered)
    (counters : ∀ start, usageOf w.cycles start = usageOf s.world.cycles start)
    (owes : owed call next = owed call phase) :
    UsageInvariant ⟨w, s.calls.set k (call, next)⟩ := by
  have same : total owed (s.calls.set k (call, next)) = total owed s.calls := by
    have moved := total_set owed found next
    rw [owes] at moved
    exact add_right_cancel moved
  constructor
  · show w.stored = w.counted + total owed (s.calls.set k (call, next))
    rw [same]
    simpa only [UsageWorld.stored, UsageWorld.counted, records, metered] using invariant.stored
  · simpa only [records] using invariant.distinct
  · simpa only [records] using invariant.decimal
  · intro start
    rw [counters start, invariant.counters start]
    simp only [UsageWorld.counted, metered]

theorem owed_gate {call : Ingestion} {phase : UsagePhase}
    (gate : phase.gate = true ∨ phase = .storing ∨ phase = .refused) : owed call phase = 0 := by
  obtain gate | rfl | rfl := gate
  · cases phase <;> first | rfl | cases gate
  · rfl
  · rfl

theorem UsageInvariant.store (invariant : UsageInvariant s) {k : Nat} {call : Ingestion}
    {cycle : Bounds} (found : s.calls[k]? = some (call, .storing))
    (new : newBatch s.world.records call.records) :
    UsageInvariant ⟨{ s.world with
      records := call.records.foldl (insertRecord cycle) s.world.records },
      s.calls.set k (call, .selecting cycle)⟩ := by
  rw [foldl_insertRecord new]
  have moved : total owed (s.calls.set k (call, .selecting cycle)) =
      total owed s.calls + (call.records.map fun r => (r, cycle.start) : List _) :=
    (add_zero _).symm.trans (total_set owed found (.selecting cycle))
  constructor
  · show _ = s.world.counted + total owed (s.calls.set k (call, .selecting cycle))
    rw [moved, ← add_assoc, ← invariant.stored]
    simp [UsageWorld.stored, Function.comp_def]
  · rw [List.map_append, List.nodup_append]
    refine ⟨invariant.distinct, by simpa [Function.comp_def] using new.1, ?_⟩
    intro e stored e' batch same
    obtain ⟨old, at_, rfl⟩ := List.mem_map.mp stored
    obtain ⟨_, at', rfl⟩ := List.mem_map.mp batch
    obtain ⟨r, member, rfl⟩ := List.mem_map.mp at'
    exact (new.2 r member).2 old at_ same
  · intro stored member
    obtain old | batch := List.mem_append.mp member
    · exact invariant.decimal stored old
    · obtain ⟨r, at_, rfl⟩ := List.mem_map.mp batch
      exact (new.2 r at_).1
  · exact invariant.counters

theorem counted_concat (w : UsageWorld) (m : Metering) (cycles : List UsageCycle) :
    UsageWorld.counted { w with cycles, metered := w.metered ++ [m] } =
      w.counted + (m.records.map fun r => (r, m.cycle) : List _) := by
  simp [UsageWorld.counted, ← Multiset.coe_add]

theorem UsageInvariant.meter (invariant : UsageInvariant s) {k before count : Nat}
    {call : Ingestion} {cycle : Bounds} (found : s.calls[k]? = some (call, .metering cycle)) :
    UsageInvariant ⟨{ s.world with
      cycles := upsertCycle s.world.cycles cycle (batchUsage call.records)
      metered := s.world.metered ++ [⟨cycle.start, call.records, before⟩] },
      s.calls.set k (call, .resolving cycle count)⟩ := by
  have moved : total owed (s.calls.set k (call, .resolving cycle count)) +
      (call.records.map fun r => (r, cycle.start) : List _) = total owed s.calls :=
    (total_set owed found (.resolving cycle count)).trans (add_zero _)
  have decimal : ∀ r ∈ call.records, Decimal 8 r.costUsd := fun r member =>
    invariant.owed_decimal (List.mem_of_getElem? found)
      (Multiset.mem_coe.mpr (List.mem_map_of_mem (f := fun r => (r, cycle.start)) member))
  constructor
  · rw [counted_concat, add_assoc, add_comm (_ : Multiset (RequestRecord × Int)) (total _ _), moved]
    exact invariant.stored
  · exact invariant.distinct
  · exact invariant.decimal
  · intro start
    rw [counted_concat, usageIn_add, ← invariant.counters, usageIn_batch, usageOf_upsertCycle,
      batchUsage_eq decimal]

theorem UsageInvariant.advance (invariant : UsageInvariant s) {k : Nat} {call : Ingestion}
    {phase next : UsagePhase} {w : UsageWorld} (found : s.calls[k]? = some (call, phase))
    (meets : meteredAtOnce s.world call phase)
    (statement : Statement limits s.world call phase w next) :
    UsageInvariant ⟨w, s.calls.set k (call, next)⟩ := by
  cases statement with
  | gate before after counters notified =>
    exact invariant.quiet found rfl rfl counters
      ((owed_gate after).trans (owed_gate (Or.inl before)).symm)
  | store => exact invariant.store found meets
  | select =>
    rw [meteredAtOnce] at meets
    exact invariant.quiet found rfl rfl (fun _ => rfl) (by rw [meets, owed, owed])
  | miss => exact invariant.quiet found rfl rfl (fun _ => rfl) rfl
  | fallBack =>
    rw [meteredAtOnce] at meets
    exact invariant.quiet found rfl rfl (fun _ => rfl) (by rw [meets, owed, owed])
  | meter => exact invariant.meter found
  | resolve crosses => exact invariant.quiet found rfl rfl (fun _ => rfl) rfl
  | below crosses => exact invariant.quiet found rfl rfl (fun _ => rfl) rfl
  | claim row unclaimed => exact invariant.quiet found rfl rfl (fun _ => usageOf_notifyCycle) rfl
  | claimed taken => exact invariant.quiet found rfl rfl (fun _ => rfl) rfl
  | enqueue => exact invariant.quiet found rfl rfl (fun _ => rfl) rfl

theorem UsageInvariant.happen (invariant : UsageInvariant s) (event : UsageEvent) :
    UsageInvariant { s with world := s.world.happen event } := by
  cases event with
  | tick now => exact ⟨invariant.stored, invariant.distinct, invariant.decimal, invariant.counters⟩
  | seed cycle =>
    exact ⟨invariant.stored, invariant.distinct, invariant.decimal, fun start =>
      usageOf_seedCycle.trans (invariant.counters start)⟩
  | staff n => exact ⟨invariant.stored, invariant.distinct, invariant.decimal, invariant.counters⟩

theorem usageInvariant_preserved :
    (usageMachine limits).Preserves (Fleet.Meets meteredAtOnce fun _ _ => True)
      UsageInvariant := by
  apply Routes.preserves
  · intro s k call phase w next invariant found meets went
    exact invariant.advance found meets (ingest_statement went)
  · exact fun s event invariant _ => invariant.happen event

theorem UsageInvariant.fresh (fresh : s.Fresh)
    (entering : ∀ call phase, (call, phase) ∈ s.calls → phase = .limiting) :
    UsageInvariant s := by
  have none : total owed s.calls = 0 := by
    apply total_eq_zero
    intro call phase member
    rw [entering call phase member]
    rfl
  constructor
  · simp [UsageWorld.stored, UsageWorld.counted, fresh.records, fresh.metered, none]
  · simp [fresh.records]
  · simp [fresh.records]
  · intro start
    simp [fresh.counters start, UsageWorld.counted, fresh.metered]

/-- When no ingestion is under way, what is stored is what was counted. -/
theorem UsageInvariant.replaySafe (invariant : UsageInvariant s) (ended : s.Ended) :
    ReplaySafe s.world := by
  have none : total owed s.calls = 0 := by
    apply total_eq_zero
    intro call phase member
    have done := ended call phase member
    cases phase <;> first | rfl | cases done
  have same : s.world.stored = s.world.counted := by
    rw [invariant.stored, none, add_zero]
  refine ⟨invariant.distinct, fun start => by rw [same, invariant.counters], ?_⟩
  intro r r' start start' member member' id
  rw [← same, UsageWorld.stored, Multiset.mem_coe, List.mem_map] at member member'
  obtain ⟨stored, at_, e⟩ := member
  obtain ⟨stored', at', e'⟩ := member'
  have one : stored = stored' := by
    apply List.inj_on_of_nodup_map invariant.distinct at_ at'
    simp only [Prod.mk.injEq] at e e'
    rw [e.1, e'.1, id]
  subst one
  simp only [Prod.mk.injEq] at e e'
  rw [← e.2, ← e'.2]

/-- Metering is replay-safe where nothing is replayed: in every run of ingestions in which
    each batch is new when it is stored, and meters the cycle it was stored in, the counters are
    those of the distinct records once the ingestions have ended. -/
theorem metering_replay_safe (limits : Option ResolvedLimits) (s s' : UsageState)
    (labels : List UsageLabel) (fresh : s.Fresh)
    (entering : ∀ call phase, (call, phase) ∈ s.calls → phase = .limiting)
    (once : (usageMachine limits).Guarded (Fleet.Meets meteredAtOnce fun _ _ => True) s labels)
    (ran : (usageMachine limits).run s labels = some s') (ended : s'.Ended) :
    ReplaySafe s'.world :=
  (usageInvariant_preserved.run _ (.fresh fresh entering) once ran).replaySafe ended

/-! ## Two batches, and one that is sent again -/

def march : Bounds := calendarMonth marchMoment

theorem minute_in_hour : 45 < 60 := by decide

def laterMoment : UtcDateTime := { marchMoment with minute := 45, minuteRange := minute_in_hour }

/-- Two batches of a workspace on a paid plan. -/
def twoBatches : UsageState where
  world := { now := marchMoment }
  calls := [
    (⟨"teams", [{ eventId := "e1", inputTokens := 10, costUsd := 1 / 4 }, { eventId := "e2" }]⟩, .limiting),
    (⟨"teams", [{ eventId := "e3", outputTokens := 7, costUsd := 1 / 2 }]⟩, .limiting)]

def tenRequests : ResolvedLimits where
  monthlyRequestCap := some 10

/-- The first batch is stored in March; before it is counted, a webhook seeds the cycle in which the
    second is stored. -/
def aroundSeed : List UsageLabel :=
  -- both pass the gate
  List.flatten [List.replicate 4 (.advance 0), List.replicate 3 (.advance 1),
    [.advance 0, .happen (.tick laterMoment), .advance 0,
      .happen (.seed ⟨march.start + 60000000, march.finish + 60000000⟩),
      .advance 1, .advance 1, .advance 0, .advance 1, .advance 0, .advance 1]]

theorem twoBatches_fresh : twoBatches.Fresh :=
  ⟨rfl, rfl, rfl, fun _ => rfl, fun _ _ => rfl⟩

theorem metering_replay_safe_aroundSeed :
    ∃ s, (usageMachine (some tenRequests)).run twoBatches aroundSeed = some s ∧
      usageOf s.world.cycles march.start = (2, 10, 1 / 4) ∧
      usageOf s.world.cycles (march.start + 60000000) = (1, 7, 1 / 2) ∧ ReplaySafe s.world := by
  have outcome : ((usageMachine (some tenRequests)).run twoBatches aroundSeed).any fun s =>
      (s.calls.all fun c => c.2.ended) &&
        decide (usageOf s.world.cycles march.start = (2, 10, 1 / 4)) &&
        decide (usageOf s.world.cycles (march.start + 60000000) = (1, 7, 1 / 2)) := by
    decide +kernel
  obtain ⟨s, ran, facts⟩ := (Option.any_eq_true _ _).mp outcome
  simp only [Bool.and_eq_true, decide_eq_true_eq] at facts
  refine ⟨s, ran, facts.1.2, facts.2, ?_⟩
  apply metering_replay_safe _ _ _ _ twoBatches_fresh ?_ (by decide +kernel) ran
  · exact fun call phase member => List.all_eq_true.mp facts.1.1 (call, phase) member
  · intro call phase member
    obtain same | same := List.mem_pair.mp member <;> cases same <;> rfl

/-- One record of a workspace on the free plan, sent twice. -/
def sentTwice : UsageState where
  world := { now := marchMoment }
  calls := List.replicate 2 (⟨"free", [{ eventId := "e1", inputTokens := 10, costUsd := 1 / 4 }]⟩, .limiting)

theorem sentTwice_entering (call : Ingestion) (phase : UsagePhase)
    (member : (call, phase) ∈ sentTwice.calls) : phase = .limiting := by
  cases List.eq_of_mem_replicate member
  rfl

/-- Each ingestion runs to its end, one after the other. -/
def inTurns : List UsageLabel :=
  List.replicate 5 (FleetLabel.advance 0) ++ List.replicate 5 (FleetLabel.advance 1)

/-- A batch that is sent again is stored once and counted twice. -/
theorem resent_batch_counted_twice :
    ¬ ∀ (limits : Option ResolvedLimits) (s s' : UsageState) (labels : List UsageLabel),
      s.Fresh → (∀ call phase, (call, phase) ∈ s.calls → phase = .limiting) →
      (usageMachine limits).run s labels = some s' → s'.Ended → ReplaySafe s'.world := by
  intro claim
  have outcome : ((usageMachine none).run sentTwice inTurns).any fun s' =>
      (s'.calls.all fun c => c.2.ended) && decide (usageOf s'.world.cycles march.start = (2, 20, 1 / 2)) &&
        decide (s'.world.records.map (fun r => (r.record, r.cycle.start)) =
          [({ eventId := "e1", inputTokens := 10, costUsd := 1 / 4 }, march.start)]) := by
    decide +kernel
  obtain ⟨s', ran, facts⟩ := (Option.any_eq_true _ _).mp outcome
  simp only [Bool.and_eq_true, decide_eq_true_eq] at facts
  have fresh : sentTwice.Fresh := ⟨rfl, rfl, rfl, fun _ => rfl, fun _ _ => rfl⟩
  have safe := claim none sentTwice s' inTurns fresh sentTwice_entering ran
    fun call phase member => List.all_eq_true.mp facts.1.1 (call, phase) member
  have counters := safe.counters march.start
  rw [facts.1.2, UsageWorld.stored, facts.2] at counters
  exact absurd counters (by decide +kernel)

end BurnLens.Backend
