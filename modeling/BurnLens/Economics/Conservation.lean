import BurnLens.Economics.Workflow
import Mathlib.Data.List.Dedup

/-! # What workflow economics conserve

No cost is lost or counted twice, whatever the times and the types.  That an outcome and its
cost stand in one row, and that the two databases report the same rows, is so where the types
are texts, the currencies have no comma, and the texts of the times are ordered as the times.
-/

namespace BurnLens.Economics

open Library Storage Cloud

/-! ## Conservation -/

section

variable {T : Type} (d : Dialect T)

structure Conserves (rows : List WorkflowEconomics) (requests : List (Spend T)) : Prop where
  workflow : ∀ workflowId : Str,
    ((rows.filter fun row => row.workflowId = workflowId).map WorkflowEconomics.costTotalUsd).sum =
      sumWhere (fun r => r.workflowId = some workflowId && d.counts r.ts) Spend.costUsd requests
  row : ∀ row ∈ rows,
    row.costTotalUsd = row.costAcceptedUsd + row.costReworkUsd + row.costUnattributedUsd

variable {d} {entries : List (Entry T)} {requests : List (Spend T)} {allocated : List Allocation}
  {counted : List Counted} {currencies : List Str → List Str}

theorem byCost_perm (rows : List WorkflowEconomics) : (byCost rows).Perm rows :=
  List.perm_insertionSort _ rows

theorem economicsRow_cost (key : Key) : (economicsRow currencies allocated counted key).costTotalUsd =
    sumWhere (fun a => decide (a.key = key)) Allocation.costUsd allocated := by
  simp [economicsRow]

theorem economicsRow_split (key : Key) :
    (economicsRow currencies allocated counted key).costTotalUsd =
      (economicsRow currencies allocated counted key).costAcceptedUsd +
        (economicsRow currencies allocated counted key).costReworkUsd +
        (economicsRow currencies allocated counted key).costUnattributedUsd := by
  have judged : ∀ amounts : List Allocation,
      sumWhere (fun a => decide (a.key = key) && a.status.isSome) Allocation.costUsd amounts =
        sumWhere (fun a => decide (a.key = key) && decide (a.status = some .accepted))
          Allocation.costUsd amounts +
        sumWhere (fun a => decide (a.key = key) && (decide (a.status = some .rejected) ||
          decide (a.status = some .failed))) Allocation.costUsd amounts := by
    apply sumWhere_split
    · intro a
      cases a.status with
      | none => simp
      | some status => cases status <;> simp
    · intro a
      cases a.status with
      | none => simp
      | some status => cases status <;> simp
  simp only [economicsRow]
  rw [← judged]
  apply sumWhere_split
  · intro a
    cases a.status <;> simp
  · intro a
    cases a.status <;> simp

theorem sum_alloc (workflowId : Str) (requests : List (Spend T)) :
    sumWhere (fun a => decide (a.workflowId = workflowId)) Allocation.costUsd
        (d.alloc entries requests) =
      sumWhere (fun r => decide (r.workflowId = some workflowId) && d.counts r.ts) Spend.costUsd
        requests := by
  induction requests with
  | nil => rfl
  | cons request requests inductionHypothesis =>
    rw [Dialect.alloc] at inductionHypothesis
    rw [Dialect.alloc, List.filterMap_cons, sumWhere_cons, ← inductionHypothesis]
    rw [Dialect.allocate]
    cases request.workflowId with
    | none => simp
    | some other =>
      cases d.counts request.ts with
      | false => simp
      | true => simp [sumWhere_cons, Dialect.allocation]

theorem sum_report (workflowId : Str) :
    (((report currencies allocated counted).filter fun row => row.workflowId = workflowId).map
        WorkflowEconomics.costTotalUsd).sum =
      sumWhere (fun a => decide (a.workflowId = workflowId)) Allocation.costUsd allocated := by
  have sorted := ((byCost_perm ((keys allocated counted).map
    (economicsRow currencies allocated counted))).filter
      fun row => row.workflowId = workflowId).map WorkflowEconomics.costTotalUsd
  rw [report, sorted.sum_eq, List.filter_map, List.map_map]
  have rows : ∀ key : Key,
      (WorkflowEconomics.costTotalUsd ∘ economicsRow currencies allocated counted) key =
        sumWhere (fun a => decide (a.key = key)) Allocation.costUsd allocated :=
    economicsRow_cost
  have distinct : (keys allocated counted).Nodup := List.nodup_dedup _
  rw [List.map_congr_left fun key _ => rows key,
    sum_map_sumWhere (distinct.filter _) Allocation.costUsd allocated]
  apply sumWhere_congr
  -- every allocation has its key among the rows
  intro a member
  have its : a.key ∈ keys allocated counted :=
    List.mem_dedup.mpr (List.mem_append_left _ (List.mem_map_of_mem member))
  simp only [List.mem_filter, its, true_and, Function.comp_apply, decide_eq_true_eq]
  rfl

/-- No cost is lost, none is counted twice, and every row adds up. -/
theorem economics_conserves (d : Dialect T) (entries : List (Entry T)) (requests : List (Spend T)) :
    Conserves d (d.economics entries requests) requests where
  workflow workflowId := by rw [Dialect.economics, sum_report, sum_alloc]
  row row member := by
    have unsorted := (byCost_perm _).mem_iff.mp member
    obtain ⟨key, _, rfl⟩ := List.mem_map.mp unsorted
    exact economicsRow_split key

end

/-! ## The row of an outcome and of its cost -/

section

variable {T : Type} (d : Dialect T)

/-- One of the two subqueries finds the outcome for the request. -/
def Dialect.Charged (entries : List (Entry T)) (request : Spend T) (entry : Entry T) : Prop :=
  ∃ workflowId, request.workflowId = some workflowId ∧
    (d.firstForType.pick (d.claimants entries workflowId request.ts) = some entry ∨
      d.firstForStatus.pick (d.claimants entries workflowId request.ts) = some entry)

def ReportedTogether (entries : List (Entry T)) (requests : List (Spend T)) : Prop :=
  ∀ request ∈ requests, ∀ entry, d.Charged entries request entry →
    d.counts entry.eventTime = true →
      ∀ a, d.allocate entries request = some a → a.key = entry.counted.key

/-- Of outcomes that the query takes one for the other it does not matter which comes first. -/
def Alike (claimants : List (Entry T)) : Prop :=
  ∀ e ∈ claimants, ∀ e' ∈ claimants,
    d.le e.eventTime e'.eventTime = true → d.le e'.eventTime e.eventTime = true →
      e.status = e'.status ∧ e.outcomeType = e'.outcomeType

/-- So it is for every request that the query counts. -/
def TiesAlike (entries : List (Entry T)) (requests : List (Spend T)) : Prop :=
  ∀ request ∈ requests, d.counts request.ts = true → ∀ workflowId,
    request.workflowId = some workflowId →
      Alike d (d.claimants entries workflowId request.ts)

variable {d} {entries : List (Entry T)} {requests : List (Spend T)} {workflowId : Str} {ts : T}
  {entry : Entry T} {first : First d.le}

theorem mem_claimants :
    entry ∈ d.claimants entries workflowId ts ↔
      entry ∈ entries ∧ entry.workflowId = workflowId ∧ d.claims entry.eventTime ts = true := by
  simp [Dialect.claimants]

theorem First.mem (picked : first.pick (d.claimants entries workflowId ts) = some entry) :
    entry ∈ entries ∧ entry.workflowId = workflowId :=
  have claimant := mem_claimants.mp (first.least picked).1
  ⟨claimant.1, claimant.2.1⟩

theorem Dialect.Charged.claimant {request : Spend T} (charged : d.Charged entries request entry) :
    ∃ workflowId, request.workflowId = some workflowId ∧
      entry ∈ d.claimants entries workflowId request.ts := by
  obtain ⟨workflowId, tagged, picked | picked⟩ := charged
  · exact ⟨workflowId, tagged, (d.firstForType.least picked).1⟩
  · exact ⟨workflowId, tagged, (d.firstForStatus.least picked).1⟩

theorem picks_alike {other : First d.le} {entry' : Entry T} {claimants : List (Entry T)}
    (alike : Alike d claimants) (picked : first.pick claimants = some entry)
    (picked' : other.pick claimants = some entry') :
    entry.status = entry'.status ∧ entry.outcomeType = entry'.outcomeType := by
  obtain ⟨member, least⟩ := first.least picked
  obtain ⟨member', least'⟩ := other.least picked'
  exact alike entry member entry' member' (least entry' member') (least' entry member)

/-- Where no type is found for a request, none of the outcomes it is charged to has one. -/
theorem untyped_of_untyped {request : Spend T} {workflowId : Str}
    (alike : Alike d (d.claimants entries workflowId request.ts))
    (tagged : request.workflowId = some workflowId) (charged : d.Charged entries request entry) :
    entry.workflowId = workflowId ∧
      (d.firstForType.pick (d.claimants entries workflowId request.ts)).bind Entry.outcomeType =
        entry.outcomeType := by
  obtain ⟨workflowId', tagged', charged⟩ := charged
  obtain rfl := Option.some.inj (tagged.symm.trans tagged')
  obtain picked | picked := charged
  · exact ⟨(First.mem picked).2, by rw [picked, Option.bind_some]⟩
  · refine ⟨(First.mem picked).2, ?_⟩
    cases found : d.firstForType.pick (d.claimants entries workflowId request.ts) with
    | none =>
      -- then no outcome claims the request
      have member := (d.firstForStatus.least picked).1
      rw [d.firstForType.found found] at member
      cases member
    | some chosen => exact (picks_alike alike found picked).2

/-- An outcome in range is reported with its cost just where it has a type: without one, the
    outcome is "unspecified" and the cost "unattributed". -/
theorem reported_together_iff (alike : TiesAlike d entries requests) :
    ReportedTogether d entries requests ↔
      ∀ request ∈ requests, d.counts request.ts = true → ∀ entry, d.Charged entries request entry →
        d.counts entry.eventTime = true → entry.outcomeType ≠ none := by
  have keyed : ∀ request ∈ requests, ∀ entry a, d.Charged entries request entry →
      d.allocate entries request = some a → d.counts request.ts = true ∧
        a.workflowId = entry.workflowId ∧
          a.outcomeType = entry.outcomeType.getD (.text "unattributed") := by
    intro request member entry a charged allocated
    obtain ⟨workflowId, tagged, _⟩ := id charged
    simp only [Dialect.allocate, tagged] at allocated
    split at allocated
    · next counts =>
      obtain ⟨its, type⟩ :=
        untyped_of_untyped (alike request member counts workflowId tagged) tagged charged
      obtain rfl := Option.some.inj allocated
      exact ⟨counts, its.symm, congrArg (Option.getD · _) type⟩
    · cases allocated
  constructor
  · intro together request member counts entry charged counts' untyped
    obtain ⟨workflowId, tagged, _⟩ := id charged
    have allocated : d.allocate entries request =
        some (d.allocation entries request workflowId) := by
      simp only [Dialect.allocate, tagged, counts, if_true]
    obtain ⟨_, _, type⟩ := keyed request member entry _ charged allocated
    have key := congrArg Prod.snd (together request member entry charged counts' _ allocated)
    simp only [Allocation.key, Counted.key, Entry.counted, type, untyped, Option.getD_none] at key
    exact absurd key (by decide)
  · intro typed request member entry charged counts' a allocated
    obtain ⟨counts, workflow, type⟩ := keyed request member entry a charged allocated
    obtain ⟨outcomeType, known⟩ :=
      Option.ne_none_iff_exists'.mp (typed request member counts entry charged counts')
    simp only [Allocation.key, Counted.key, Entry.counted, workflow, type, known, Option.getD_some]

end

/-! ## Two databases -/

section

variable {T T' : Type} (f : T → T') (d : Dialect T) (d' : Dialect T') (entries : List (Entry T))
  (requests : List (Spend T))

def Entry.at (entry : Entry T) : Entry T' := { entry with eventTime := f entry.eventTime }

def Spend.at (request : Spend T) : Spend T' := { request with ts := f request.ts }

/-- Two databases compare the times of the same data alike. -/
structure Agrees : Prop where
  spends : ∀ r ∈ requests, r.workflowId ≠ none → d.counts r.ts = d'.counts (f r.ts)
  outcomes : ∀ e ∈ entries, d.counts e.eventTime = d'.counts (f e.eventTime)
  claims : ∀ r ∈ requests, d.counts r.ts = true → ∀ e ∈ entries,
    r.workflowId = some e.workflowId →
      d.claims e.eventTime r.ts = d'.claims (f e.eventTime) (f r.ts)
  ties : ∀ r ∈ requests, d.counts r.ts = true → ∀ workflowId, r.workflowId = some workflowId →
    ∀ e ∈ d.claimants entries workflowId r.ts, ∀ e' ∈ d.claimants entries workflowId r.ts,
      d.le e.eventTime e'.eventTime = true → d'.le (f e'.eventTime) (f e.eventTime) = true →
        e.status = e'.status ∧ e.outcomeType = e'.outcomeType

variable {f d d' entries requests}

theorem claimants_at (agrees : Agrees f d d' entries requests) {request : Spend T}
    (member : request ∈ requests) (counts : d.counts request.ts = true) {workflowId : Str}
    (tagged : request.workflowId = some workflowId) :
    d'.claimants (entries.map (Entry.at f)) workflowId (f request.ts) =
      (d.claimants entries workflowId request.ts).map (Entry.at f) := by
  rw [Dialect.claimants, Dialect.claimants, List.filter_map]
  congr 1
  apply List.filter_congr
  intro entry stored
  show (decide (entry.workflowId = workflowId) && d'.claims (f entry.eventTime) (f request.ts)) = _
  by_cases its : entry.workflowId = workflowId
  · rw [agrees.claims request member counts entry stored (tagged.trans (congrArg some its.symm))]
  · simp [its]

theorem pick_at (agrees : Agrees f d d' entries requests) {request : Spend T}
    (member : request ∈ requests) (counts : d.counts request.ts = true) {workflowId : Str}
    (tagged : request.workflowId = some workflowId) (first : First d.le)
    (first' : First d'.le) :
    ((first.pick (d.claimants entries workflowId request.ts)).map
        fun e => (e.status, e.outcomeType)) =
      (first'.pick (d'.claimants (entries.map (Entry.at f)) workflowId (f request.ts))).map
        fun e => (e.status, e.outcomeType) := by
  have claimants := claimants_at agrees member counts tagged
  cases found : first.pick (d.claimants entries workflowId request.ts) with
  | none =>
    have empty := first.found found
    cases found' : first'.pick (d'.claimants (entries.map (Entry.at f)) workflowId (f request.ts)) with
    | none => rfl
    | some other =>
      have claimant := (first'.least found').1
      rw [claimants, empty] at claimant
      cases claimant
  | some entry =>
    obtain ⟨claimant, least⟩ := first.least found
    cases found' : first'.pick (d'.claimants (entries.map (Entry.at f)) workflowId (f request.ts)) with
    | none =>
      have empty := first'.found found'
      rw [claimants, List.map_eq_nil_iff] at empty
      rw [empty] at claimant
      cases claimant
    | some other =>
      obtain ⟨claimant', least'⟩ := first'.least found'
      rw [claimants] at claimant' least'
      obtain ⟨entry', stands, rfl⟩ := List.mem_map.mp claimant'
      have alike := agrees.ties request member counts workflowId tagged entry claimant entry'
        stands (least entry' stands) (least' (entry.at f) (List.mem_map_of_mem claimant))
      exact congrArg some (Prod.ext alike.1 alike.2)

theorem allocate_at (agrees : Agrees f d d' entries requests) {request : Spend T}
    (member : request ∈ requests) :
    d'.allocate (entries.map (Entry.at f)) (request.at f) = d.allocate entries request := by
  have workflow : (request.at f).workflowId = request.workflowId := rfl
  have time : (request.at f).ts = f request.ts := rfl
  rw [Dialect.allocate, Dialect.allocate, workflow, time]
  cases tagged : request.workflowId with
  | none => rfl
  | some workflowId =>
    simp only [← agrees.spends request member (by simp [tagged])]
    cases counts : d.counts request.ts with
    | false => rfl
    | true =>
      have types := congrArg (Option.bind · Prod.snd)
        (pick_at agrees member counts tagged d.firstForType d'.firstForType)
      have statuses := congrArg (Option.map Prod.fst)
        (pick_at agrees member counts tagged d.firstForStatus d'.firstForStatus)
      simp only [Option.bind_map, Option.map_map, Function.comp_def] at types statuses
      have same : d'.allocation (entries.map (Entry.at f)) (request.at f) workflowId =
          d.allocation entries request workflowId := by
        rw [Dialect.allocation, Dialect.allocation]
        congr 1
        · exact congrArg (Option.getD · _) types.symm
        · exact statuses.symm
      simp only [same]

theorem alloc_at (agrees : Agrees f d d' entries requests) :
    d'.alloc (entries.map (Entry.at f)) (requests.map (Spend.at f)) = d.alloc entries requests := by
  rw [Dialect.alloc, Dialect.alloc, List.filterMap_map]
  exact List.filterMap_congr fun request member => allocate_at agrees member

theorem counted_at (agrees : Agrees f d d' entries requests) :
    d'.counted (entries.map (Entry.at f)) = d.counted entries := by
  rw [Dialect.counted, Dialect.counted, List.filter_map, List.map_map]
  have same : ∀ entry ∈ entries, ((fun e : Entry T' => d'.counts e.eventTime) ∘ Entry.at f) entry =
      d.counts entry.eventTime := fun entry member => (agrees.outcomes entry member).symm
  rw [List.filter_congr same]
  rfl

theorem report_congr {currencies currencies' : List Str → List Str} {allocated : List Allocation}
    {counted : List Counted}
    (same : ∀ distinct : List Str,
      (∀ c ∈ distinct, ∃ o ∈ counted, o.status = .accepted ∧ o.currency = some c) →
        currencies distinct = currencies' distinct) :
    report currencies allocated counted = report currencies' allocated counted := by
  rw [report, report]
  congr 1
  apply List.map_congr_left
  intro key _
  simp only [economicsRow]
  rw [same]
  intro c member
  obtain ⟨o, accepted, its⟩ := List.mem_filterMap.mp (List.mem_dedup.mp member)
  obtain ⟨member, status⟩ := List.mem_filter.mp accepted
  exact ⟨o, List.mem_of_mem_filter member, of_decide_eq_true status, its⟩

def Dialect.inRange (d : Dialect T) (entries : List (Entry T)) : List (Entry T) :=
  entries.filter fun entry => d.counts entry.eventTime

/-- What may claim a request that counts, counts. -/
def Dialect.Forward (d : Dialect T) : Prop :=
  ∀ ts eventTime, d.counts ts = true → d.claims eventTime ts = true → d.counts eventTime = true

theorem claimants_inRange (forward : d.Forward) {request : Spend T}
    (counts : d.counts request.ts = true) (workflowId : Str) :
    d.claimants (d.inRange entries) workflowId request.ts =
      d.claimants entries workflowId request.ts := by
  rw [Dialect.claimants, Dialect.claimants, Dialect.inRange, List.filter_filter]
  apply List.filter_congr
  intro entry _
  cases claims : d.claims entry.eventTime request.ts with
  | false => simp
  | true => simp [forward _ _ counts claims]

theorem counted_inRange : d.counted (d.inRange entries) = d.counted entries := by
  rw [Dialect.counted, Dialect.counted, Dialect.inRange, List.filter_filter]
  simp only [Bool.and_self]

theorem economics_inRange (forward : d.Forward) :
    d.economics (d.inRange entries) requests = d.economics entries requests := by
  have alloc : d.alloc (d.inRange entries) requests = d.alloc entries requests := by
    apply List.filterMap_congr
    intro request _
    rw [Dialect.allocate, Dialect.allocate]
    cases request.workflowId with
    | none => rfl
    | some workflowId =>
      cases counts : d.counts request.ts with
      | false => rfl
      | true =>
        simp only [Dialect.allocation, claimants_inRange forward counts workflowId]
  rw [Dialect.economics, Dialect.economics, counted_inRange, alloc]

end

end BurnLens.Economics
