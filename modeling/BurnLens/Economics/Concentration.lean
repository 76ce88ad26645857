import BurnLens.Economics.Conservation
import Mathlib.Data.List.MinMax

/-! # Provider concentration

How much of a workspace's outcomes depend on one provider.  The summary charges a request to the
first outcome of its workflow in the window, and the concentration credits it to the first accepted
one.  Where a rejected or a failed outcome comes before, or another at the same time, they are not the
same outcome.
-/

namespace BurnLens.Economics

open Library Storage Cloud

/-! ## The queries -/

/-- The outcomes of a workspace; `UNIQUE (workspace_id, outcome_id)`. -/
structure OutcomeTable where
  rows : List CloudOutcome
  distinct : (rows.map CloudOutcome.outcomeId).Nodup

/-- A request, with its provider. -/
structure ProviderSpend extends Spend Int where
  provider : Str

/-- `ORDER BY o.event_time ASC LIMIT 1`, of the rows themselves: which of several first rows it is, is
the database's choice. -/
structure FirstOutcome where
  pick : List CloudOutcome → Option CloudOutcome
  least : ∀ {rows row}, pick rows = some row →
    row ∈ rows ∧ ∀ other ∈ rows, row.eventTime ≤ other.eventTime
  found : ∀ {rows}, pick rows = none → rows = []

/-- What the two queries read. -/
structure OutcomeQuery where
  outcomes : OutcomeTable
  requests : List ProviderSpend
  cutoff : DateTime
  windowSeconds : Nat

/-- A row of `alloc`. -/
structure ProviderAllocation where
  provider : Str
  costUsd : ℚ
  workflowId : Str
  acceptedOutcomeId : Option Str

structure ProviderConcentration where
  provider : Str
  spendUsd : ℚ
  spendShare : ℚ
  acceptedOutcomes : Nat
  acceptedShare : ℚ
  workflows : Nat
  soleProviderWorkflows : Nat

namespace OutcomeQuery

variable (q : OutcomeQuery)

/-- The workflow of a request that is in `req`. -/
def workflowOf (request : Spend Int) : Option Str :=
  match request.workflowId with
  | none => none
  | some workflowId => if instantLe q.cutoff.instant request.ts then some workflowId else none

/-- The outcomes of the workflow at the time or after it, inside the window. -/
def claimants (workflowId : Str) (ts : Int) : List CloudOutcome :=
  q.outcomes.rows.filter fun o => o.workflowId = workflowId &&
    (ts ≤ o.eventTime && o.eventTime < ts + q.windowSeconds * 1000000)

/-- A row of `alloc` of `_SUMMARY_SQL`, which searches for the type and for the status. -/
def summaryAllocation (forType forStatus : FirstOutcome) (jsonText : Json → Str) (request : Spend Int)
    (workflowId : Str) : Allocation :=
  let claimants := q.claimants workflowId request.ts
  { workflowId, costUsd := request.costUsd
    outcomeType := ((forType.pick claimants).bind fun o =>
      (cloudEntry jsonText o).outcomeType).getD (.text "unattributed")
    status := (forStatus.pick claimants).map CloudOutcome.status }

def summaryAllocate (forType forStatus : FirstOutcome) (jsonText : Json → Str) (request : Spend Int) :
    Option Allocation :=
  (q.workflowOf request).map (q.summaryAllocation forType forStatus jsonText request)

def summary (forType forStatus : FirstOutcome) (jsonText : Json → Str) : List WorkflowEconomics :=
  report (fun distinct => distinct)
    ((q.requests.map ProviderSpend.toSpend).filterMap (q.summaryAllocate forType forStatus jsonText))
    (((q.outcomes.rows.map (cloudEntry jsonText)).filter fun entry =>
      instantLe q.cutoff.instant entry.eventTime).map Entry.counted)

/-- `accepted_outcome_id`. -/
def acceptedOutcome (first : FirstOutcome) (workflowId : Str) (ts : Int) : Option Str :=
  (first.pick ((q.claimants workflowId ts).filter fun o => o.status = .accepted)).map
    CloudOutcome.outcomeId

/-- `alloc` of `_CONCENTRATION_SQL`. -/
def allocate (first : FirstOutcome) (request : ProviderSpend) : Option ProviderAllocation :=
  (q.workflowOf request.toSpend).map fun workflowId =>
    { provider := request.provider, costUsd := request.costUsd, workflowId
      acceptedOutcomeId := q.acceptedOutcome first workflowId request.ts }

def alloc (first : FirstOutcome) : List ProviderAllocation := q.requests.filterMap (q.allocate first)

end OutcomeQuery

/-- `COUNT(DISTINCT accepted_outcome_id)` counts these. -/
def acceptedOutcomeIds (allocated : List ProviderAllocation) : List Str :=
  (allocated.filterMap ProviderAllocation.acceptedOutcomeId).dedup

/-- `wf_providers`. -/
def nProviders (allocated : List ProviderAllocation) (workflowId : Str) : Nat :=
  ((allocated.filter fun a => a.workflowId = workflowId).map ProviderAllocation.provider).dedup.length

/-- The row of a provider, from its group and `totals`. -/
def concentrationRow (allocated : List ProviderAllocation) (provider : Str) : ProviderConcentration :=
  let group := allocated.filter fun a => a.provider = provider
  let workflows := (group.map ProviderAllocation.workflowId).dedup
  let spend := (group.map ProviderAllocation.costUsd).sum
  let accepted := (acceptedOutcomeIds group).length
  let totalSpend := (allocated.map ProviderAllocation.costUsd).sum
  let totalAccepted := (acceptedOutcomeIds allocated).length
  { provider, spendUsd := spend
    spendShare := if totalSpend = 0 then 0 else spend / totalSpend
    acceptedOutcomes := accepted
    acceptedShare := if totalAccepted = 0 then 0 else accepted / totalAccepted
    workflows := workflows.length
    soleProviderWorkflows :=
      (workflows.filter fun workflowId => nProviders allocated workflowId = 1).length }

/-- `ORDER BY spend_usd DESC`. -/
def bySpend (rows : List ProviderConcentration) : List ProviderConcentration :=
  rows.insertionSort fun a b => b.spendUsd ≤ a.spendUsd

def outcomesConcentration (q : OutcomeQuery) (first : FirstOutcome) : List ProviderConcentration :=
  bySpend (((q.alloc first).map ProviderAllocation.provider).dedup.map
    (concentrationRow (q.alloc first)))

/-! ## The summary over rows -/

section Rows

variable {jsonText : Json → Str} {first : First instantLe}

open Classical in
/-- The first row that the summary sees as the entry. -/
noncomputable def rowOf (jsonText : Json → Str) (rows : List CloudOutcome) (entry : Entry Int) :
    Option CloudOutcome :=
  rows.find? fun row => cloudEntry jsonText row = entry

theorem rowOf_spec {rows : List CloudOutcome} {entry : Entry Int} {row : CloudOutcome}
    (found : rowOf jsonText rows entry = some row) : row ∈ rows ∧ cloudEntry jsonText row = entry := by
  rw [rowOf] at found
  have same := List.find?_some found
  exact ⟨List.mem_of_find?_eq_some found, by simpa only [decide_eq_true_eq] using same⟩

theorem rowOf_pick {rows : List CloudOutcome} {entry : Entry Int}
    (picked : first.pick (rows.map (cloudEntry jsonText)) = some entry) :
    ∃ row, rowOf jsonText rows entry = some row := by
  obtain ⟨row, stored, same⟩ := List.mem_map.mp (first.least picked).1
  apply Option.ne_none_iff_exists'.mp
  intro absent
  rw [rowOf, List.find?_eq_none] at absent
  have other := absent row stored
  simp only [decide_eq_true_eq] at other
  exact other same

/-- What a database picks of the outcomes that the summary sees, it picks of their rows. -/
noncomputable def First.ofRows (first : First instantLe) (jsonText : Json → Str) : FirstOutcome where
  pick rows := (first.pick (rows.map (cloudEntry jsonText))).bind (rowOf jsonText rows)
  least := by
    intro rows row its
    obtain ⟨entry, picked, found⟩ := Option.bind_eq_some_iff.mp its
    obtain ⟨stored, rfl⟩ := rowOf_spec found
    refine ⟨stored, fun other member => ?_⟩
    exact of_decide_eq_true ((first.least picked).2 _ (List.mem_map_of_mem member))
  found := by
    intro rows nothing
    cases picked : first.pick (rows.map (cloudEntry jsonText)) with
    | none => exact List.map_eq_nil_iff.mp (first.found picked)
    | some entry =>
      obtain ⟨row, found⟩ := rowOf_pick picked
      rw [picked, Option.bind_some, found] at nothing
      cases nothing

theorem pick_ofRows (first : First instantLe) (jsonText : Json → Str) (rows : List CloudOutcome) :
    first.pick (rows.map (cloudEntry jsonText)) =
      ((first.ofRows jsonText).pick rows).map (cloudEntry jsonText) := by
  simp only [First.ofRows]
  cases picked : first.pick (rows.map (cloudEntry jsonText)) with
  | none => rfl
  | some entry =>
    obtain ⟨row, found⟩ := rowOf_pick picked
    rw [Option.bind_some, found, Option.map_some, (rowOf_spec found).2]

theorem claimants_rows (q : OutcomeQuery) (forType forStatus : First instantLe) (workflowId : Str)
    (ts : Int) :
    (postgres forType forStatus q.cutoff q.windowSeconds).claimants
        (q.outcomes.rows.map (cloudEntry jsonText)) workflowId ts =
      (q.claimants workflowId ts).map (cloudEntry jsonText) := by
  rw [Dialect.claimants, List.filter_map]
  rfl

theorem outcomesSummary_rows (q : OutcomeQuery) (forType forStatus : First instantLe) :
    outcomesSummary forType forStatus jsonText (q.requests.map ProviderSpend.toSpend) q.outcomes.rows
        q.cutoff q.windowSeconds =
      q.summary (forType.ofRows jsonText) (forStatus.ofRows jsonText) jsonText := by
  have allocated : (postgres forType forStatus q.cutoff q.windowSeconds).allocate
        (q.outcomes.rows.map (cloudEntry jsonText)) =
      q.summaryAllocate (forType.ofRows jsonText) (forStatus.ofRows jsonText) jsonText := by
    funext request
    rw [Dialect.allocate, OutcomeQuery.summaryAllocate, OutcomeQuery.workflowOf]
    cases request.workflowId with
    | none => rfl
    | some workflowId =>
      have same : (postgres forType forStatus q.cutoff q.windowSeconds).allocation
          (q.outcomes.rows.map (cloudEntry jsonText)) request workflowId =
          q.summaryAllocation (forType.ofRows jsonText) (forStatus.ofRows jsonText) jsonText request
            workflowId := by
        rw [Dialect.allocation, claimants_rows, OutcomeQuery.summaryAllocation]
        congr 1
        · show ((forType.pick _).bind _).getD _ = _
          rw [pick_ofRows, Option.bind_map]
          rfl
        · show (forStatus.pick _).map _ = _
          rw [pick_ofRows, Option.map_map]
          rfl
      show (if instantLe q.cutoff.instant request.ts then some _ else none) = _
      rw [same]
      split
      · rfl
      · rfl
  rw [outcomesSummary, Dialect.economics, Dialect.alloc, allocated]
  rfl

end Rows

section Spend

variable (q : OutcomeQuery)

theorem sum_concentration (allocated : List ProviderAllocation) :
    ((bySpend ((allocated.map ProviderAllocation.provider).dedup.map
        (concentrationRow allocated))).map ProviderConcentration.spendUsd).sum =
      (allocated.map ProviderAllocation.costUsd).sum := by
  have sorted : (bySpend _).Perm ((allocated.map ProviderAllocation.provider).dedup.map
    (concentrationRow allocated)) := List.perm_insertionSort _ _
  rw [(sorted.map ProviderConcentration.spendUsd).sum_eq, List.map_map]
  apply sum_map_sumWhere_of_mem (List.nodup_dedup _)
  intro a member
  exact List.mem_dedup.mpr (List.mem_map_of_mem member)

theorem sum_costTotal (currencies : List Str → List Str) (allocated : List Allocation)
    (counted : List Counted) :
    ((report currencies allocated counted).map WorkflowEconomics.costTotalUsd).sum =
      (allocated.map Allocation.costUsd).sum := by
  have rows : ∀ key : Key,
      (WorkflowEconomics.costTotalUsd ∘ economicsRow currencies allocated counted) key =
        sumWhere (fun a => decide (a.key = key)) Allocation.costUsd allocated :=
    economicsRow_cost
  rw [report, ((byCost_perm _).map WorkflowEconomics.costTotalUsd).sum_eq, List.map_map,
    List.map_congr_left fun key _ => rows key]
  apply sum_map_sumWhere_of_mem (List.nodup_dedup _)
  intro a member
  exact List.mem_dedup.mpr (List.mem_append_left _ (List.mem_map_of_mem member))

/-- What the providers spent is what the workflows did, whichever outcomes the databases pick. -/
theorem sum_spend (first forType forStatus : FirstOutcome) (jsonText : Json → Str) :
    ((outcomesConcentration q first).map ProviderConcentration.spendUsd).sum =
      ((q.summary forType forStatus jsonText).map WorkflowEconomics.costTotalUsd).sum := by
  rw [outcomesConcentration, sum_concentration, OutcomeQuery.summary, sum_costTotal,
    OutcomeQuery.alloc, List.filterMap_map, List.map_filterMap, List.map_filterMap]
  congr 1
  apply List.filterMap_congr
  intro request _
  simp only [OutcomeQuery.allocate, OutcomeQuery.summaryAllocate, Function.comp_apply,
    Option.map_map]
  rfl

end Spend

/-! ## The same outcomes -/

section Agreement

variable {q : OutcomeQuery} {first forType forStatus : FirstOutcome} {request : ProviderSpend}
  {o : CloudOutcome}

/-- Both subqueries of the summary find the outcome for the request. -/
def OutcomeQuery.Charges (q : OutcomeQuery) (forType forStatus : FirstOutcome)
    (request : ProviderSpend) (o : CloudOutcome) : Prop :=
  ∃ workflowId, q.workflowOf request.toSpend = some workflowId ∧
    forType.pick (q.claimants workflowId request.ts) = some o ∧
    forStatus.pick (q.claimants workflowId request.ts) = some o

def OutcomeQuery.Credits (q : OutcomeQuery) (first : FirstOutcome) (request : ProviderSpend)
    (outcomeId : Str) : Prop :=
  ∃ a, q.allocate first request = some a ∧ a.acceptedOutcomeId = some outcomeId

structure SameAllocation (q : OutcomeQuery) (first forType forStatus : FirstOutcome)
    (jsonText : Json → Str) : Prop where
  credited : ∀ request ∈ q.requests, ∀ o ∈ q.outcomes.rows, o.status = .accepted →
    (q.Credits first request o.outcomeId ↔ q.Charges forType forStatus request o)
  accepted : ∀ outcomeId, outcomeId ∈ acceptedOutcomeIds (q.alloc first) ↔
    ∃ o ∈ q.outcomes.rows, o.outcomeId = outcomeId ∧ o.status = .accepted ∧
      ∃ request ∈ q.requests, q.Charges forType forStatus request o
  spend : ((outcomesConcentration q first).map ProviderConcentration.spendUsd).sum =
    ((q.summary forType forStatus jsonText).map WorkflowEconomics.costTotalUsd).sum

/-- Where an accepted outcome may be credited with a request, an accepted one is before all others. -/
def AcceptedFirst (q : OutcomeQuery) : Prop :=
  ∀ request ∈ q.requests, ∀ workflowId, q.workflowOf request.toSpend = some workflowId →
    ∀ o ∈ q.claimants workflowId request.ts, o.status = .accepted →
      ∃ earliest ∈ q.claimants workflowId request.ts, earliest.status = .accepted ∧
        ∀ other ∈ q.claimants workflowId request.ts, other ≠ earliest →
          earliest.eventTime < other.eventTime

theorem OutcomeTable.eq_of_id (table : OutcomeTable) {o o' : CloudOutcome} (member : o ∈ table.rows)
    (member' : o' ∈ table.rows) (same : o.outcomeId = o'.outcomeId) : o = o' :=
  List.inj_on_of_nodup_map table.distinct member member' same

theorem OutcomeQuery.mem_rows {workflowId : Str} {ts : Int} (claims : o ∈ q.claimants workflowId ts) :
    o ∈ q.outcomes.rows :=
  List.mem_of_mem_filter claims

theorem credits_iff (member : o ∈ q.outcomes.rows) : q.Credits first request o.outcomeId ↔
    ∃ workflowId, q.workflowOf request.toSpend = some workflowId ∧
      first.pick ((q.claimants workflowId request.ts).filter fun o => o.status = .accepted) =
        some o := by
  constructor
  · rintro ⟨a, allocated, credited⟩
    obtain ⟨workflowId, tagged, rfl⟩ := Option.map_eq_some_iff.mp allocated
    obtain ⟨picked, its, same⟩ := Option.map_eq_some_iff.mp credited
    have stored := OutcomeQuery.mem_rows (List.mem_of_mem_filter (first.least its).1)
    obtain rfl := q.outcomes.eq_of_id stored member same
    exact ⟨workflowId, tagged, its⟩
  · rintro ⟨workflowId, tagged, picked⟩
    refine ⟨_, congrArg (Option.map _) tagged, ?_⟩
    exact congrArg (Option.map CloudOutcome.outcomeId) picked

theorem mem_acceptedOutcomeIds {outcomeId : Str} : outcomeId ∈ acceptedOutcomeIds (q.alloc first) ↔
    ∃ request ∈ q.requests, q.Credits first request outcomeId := by
  simp only [acceptedOutcomeIds, List.mem_dedup, OutcomeQuery.alloc, List.mem_filterMap]
  constructor
  · rintro ⟨a, ⟨request, member, allocated⟩, credited⟩
    exact ⟨request, member, a, allocated, credited⟩
  · rintro ⟨request, member, a, allocated, credited⟩
    exact ⟨a, ⟨request, member, allocated⟩, credited⟩

theorem FirstOutcome.picks (first : FirstOutcome) {rows : List CloudOutcome} (member : o ∈ rows) :
    ∃ picked, first.pick rows = some picked := by
  apply Option.ne_none_iff_exists'.mp
  intro nothing
  rw [first.found nothing] at member
  cases member

theorem FirstOutcome.pick_eq (first : FirstOutcome) {rows : List CloudOutcome} (member : o ∈ rows)
    (before : ∀ other ∈ rows, other ≠ o → o.eventTime < other.eventTime) :
    first.pick rows = some o := by
  obtain ⟨picked, its⟩ := first.picks member
  obtain ⟨stored, least⟩ := first.least its
  by_contra other
  have apart : picked ≠ o := by
    rintro rfl
    exact other its
  exact absurd (before picked stored apart) (Int.not_lt.mpr (least o member))

theorem sameAllocation_of_acceptedFirst (sound : AcceptedFirst q)
    (first forType forStatus : FirstOutcome) (jsonText : Json → Str) :
    SameAllocation q first forType forStatus jsonText := by
  have credited : ∀ request ∈ q.requests, ∀ o ∈ q.outcomes.rows, o.status = .accepted →
      (q.Credits first request o.outcomeId ↔ q.Charges forType forStatus request o) := by
    intro request member o stored accepted
    rw [credits_iff stored]
    apply exists_congr
    intro workflowId
    apply and_congr_right
    intro tagged
    constructor
    · intro picked
      obtain ⟨claims, -⟩ := List.mem_filter.mp (first.least picked).1
      obtain ⟨earliest, there, good, before⟩ := sound request member workflowId tagged o claims accepted
      have its : first.pick ((q.claimants workflowId request.ts).filter fun o => o.status = .accepted) =
          some earliest :=
        first.pick_eq (List.mem_filter.mpr ⟨there, decide_eq_true good⟩)
          fun other stands => before other (List.mem_of_mem_filter stands)
      obtain rfl := Option.some.inj (picked.symm.trans its)
      exact ⟨forType.pick_eq there before, forStatus.pick_eq there before⟩
    · rintro ⟨picked, -⟩
      obtain ⟨claims, -⟩ := forType.least picked
      obtain ⟨earliest, there, good, before⟩ := sound request member workflowId tagged o claims accepted
      obtain rfl := Option.some.inj (picked.symm.trans (forType.pick_eq there before))
      exact first.pick_eq (List.mem_filter.mpr ⟨there, decide_eq_true good⟩)
        fun other stands => before other (List.mem_of_mem_filter stands)
  refine ⟨credited, fun outcomeId => ?_, sum_spend q first forType forStatus jsonText⟩
  rw [mem_acceptedOutcomeIds]
  constructor
  · rintro ⟨request, member, a, allocated, its⟩
    obtain ⟨workflowId, tagged, rfl⟩ := Option.map_eq_some_iff.mp allocated
    obtain ⟨o, picked, rfl⟩ := Option.map_eq_some_iff.mp its
    obtain ⟨claims, accepted⟩ := List.mem_filter.mp (first.least picked).1
    have stored := OutcomeQuery.mem_rows claims
    refine ⟨o, stored, rfl, of_decide_eq_true accepted, request, member, ?_⟩
    exact (credited request member o stored (of_decide_eq_true accepted)).mp
      ((credits_iff stored).mpr ⟨workflowId, tagged, picked⟩)
  · rintro ⟨o, stored, rfl, accepted, request, member, charged⟩
    exact ⟨request, member, (credited request member o stored accepted).mpr charged⟩

/-- A database that picks the outcome wherever it may. -/
def FirstOutcome.preferring (outcomeId : Str) : FirstOutcome where
  pick rows :=
    (@List.argmin _ _ Int.instLinearOrder.toPreorder _ CloudOutcome.eventTime rows).map fun least =>
    (rows.find? fun o => o.eventTime = least.eventTime && o.outcomeId = outcomeId).getD least
  least := by
    intro rows row its
    obtain ⟨least, found, rfl⟩ := Option.map_eq_some_iff.mp its
    have minimal : ∀ other ∈ rows, least.eventTime ≤ other.eventTime :=
      fun other member => List.le_of_mem_argmin member found
    cases preferred : rows.find? fun o =>
        o.eventTime = least.eventTime && o.outcomeId = outcomeId with
    | none => exact ⟨List.argmin_mem found, minimal⟩
    | some o =>
      have alike := List.find?_some preferred
      simp only [Bool.and_eq_true, decide_eq_true_eq] at alike
      refine ⟨List.mem_of_find?_eq_some preferred, fun other member => ?_⟩
      rw [Option.getD_some, alike.1]
      exact minimal other member
  found := by
    intro rows nothing
    exact List.argmin_eq_none.mp (Option.map_eq_none_iff.mp nothing)

theorem pick_preferring {rows : List CloudOutcome} (member : o ∈ rows)
    (least : ∀ other ∈ rows, o.eventTime ≤ other.eventTime) :
    ∃ picked ∈ rows, (FirstOutcome.preferring o.outcomeId).pick rows = some picked ∧
      picked.outcomeId = o.outcomeId := by
  cases found : rows.argmin CloudOutcome.eventTime with
  | none =>
    rw [List.argmin_eq_none.mp found] at member
    cases member
  | some top =>
    have alike : o.eventTime = top.eventTime :=
      Int.le_antisymm (least top (List.argmin_mem found)) (List.le_of_mem_argmin member found)
    cases preferred : rows.find? fun other =>
        other.eventTime = top.eventTime && other.outcomeId = o.outcomeId with
    | none =>
      have absent := List.find?_eq_none.mp preferred o member
      simp [alike] at absent
    | some picked =>
      have chosen := List.find?_some preferred
      simp only [Bool.and_eq_true, decide_eq_true_eq] at chosen
      refine ⟨picked, List.mem_of_find?_eq_some preferred, ?_, chosen.2⟩
      simp only [FirstOutcome.preferring, found, Option.map_some, preferred, Option.getD_some]

theorem acceptedFirst_of_sameAllocation {jsonText : Json → Str}
    (same : ∀ first forType forStatus, SameAllocation q first forType forStatus jsonText) :
    AcceptedFirst q := by
  intro request member workflowId tagged o claims accepted
  have any := FirstOutcome.preferring []
  have creditable : o ∈ (q.claimants workflowId request.ts).filter fun o => o.status = .accepted :=
    List.mem_filter.mpr ⟨claims, decide_eq_true accepted⟩
  obtain ⟨credited, picked⟩ := any.picks creditable
  obtain ⟨there, good⟩ := List.mem_filter.mp (any.least picked).1
  have stored := OutcomeQuery.mem_rows there
  have charged : ∀ forType : FirstOutcome,
      forType.pick (q.claimants workflowId request.ts) = some credited := by
    intro forType
    obtain ⟨workflowId', tagged', its, -⟩ :=
      ((same any forType any).credited request member credited stored (of_decide_eq_true good)).mp
        ((credits_iff stored).mpr ⟨workflowId, tagged, picked⟩)
    obtain rfl := Option.some.inj (tagged.symm.trans tagged')
    exact its
  refine ⟨credited, there, of_decide_eq_true good, fun other stands apart => ?_⟩
  by_contra late
  -- the other is at the same time, and a database may pick it
  have least : ∀ o ∈ q.claimants workflowId request.ts, other.eventTime ≤ o.eventTime := by
    intro o' member'
    exact (Int.not_lt.mp late).trans ((any.least (charged any)).2 o' member')
  obtain ⟨chosen, among, chosenPick, alike⟩ := pick_preferring stands least
  obtain rfl := Option.some.inj (chosenPick.symm.trans (charged _))
  exact apart (q.outcomes.eq_of_id (OutcomeQuery.mem_rows stands) stored alike.symm)

/-- The concentration credits what the summary charges just where an accepted outcome that may be
credited is preceded by none. -/
theorem same_allocation_iff (q : OutcomeQuery) (jsonText : Json → Str) :
    (∀ first forType forStatus, SameAllocation q first forType forStatus jsonText) ↔
      AcceptedFirst q := by
  constructor
  · exact acceptedFirst_of_sameAllocation
  · intro sound first forType forStatus
    exact sameAllocation_of_acceptedFirst sound first forType forStatus jsonText

end Agreement

def reviewDay : DateTime := (civil 2026 2 1 0 0 0 0 0).get rfl

def reviewOutcome (outcomeId : Str) (status : OutcomeStatus) (seconds : Nat) : CloudOutcome where
  outcomeId := outcomeId
  workflowId := "wf"
  status := status
  businessValue := none
  currency := none
  eventTime := reviewDay.instant + seconds * 1000000
  source := "api"
  metadata := []

def reviewRequest : ProviderSpend where
  ts := reviewDay.instant
  costUsd := 1
  workflowId := some "wf"
  provider := "openai"

/-- The first answer to a request is rejected after ten seconds, and the second accepted after twenty. -/
def review : OutcomeQuery where
  outcomes := { rows := [reviewOutcome "o1" .rejected 10, reviewOutcome "o2" .accepted 20]
                distinct := by decide }
  requests := [reviewRequest]
  cutoff := reviewDay
  windowSeconds := 86400

theorem review_disagrees :
    ¬ ∀ first forType forStatus, SameAllocation review first forType forStatus fun _ => [] := by
  intro same
  have its : review.workflowOf reviewRequest.toSpend = some "wf" := by decide +kernel
  have stored : reviewOutcome "o2" .accepted 20 ∈ review.outcomes.rows :=
    List.mem_cons_of_mem _ List.mem_cons_self
  have credited : (FirstOutcome.preferring []).pick ((review.claimants "wf" reviewRequest.ts).filter
      fun o => o.status = .accepted) = some (reviewOutcome "o2" .accepted 20) := by
    rfl
  obtain ⟨workflowId, tagged, charged, -⟩ :=
    ((same (.preferring []) (.preferring []) (.preferring [])).credited reviewRequest
      List.mem_cons_self _ stored rfl).mp ((credits_iff stored).mpr ⟨_, its, credited⟩)
  obtain rfl := Option.some.inj (its.symm.trans tagged)
  -- the summary finds the rejected one
  have wrong : ((FirstOutcome.preferring []).pick (review.claimants "wf" reviewRequest.ts)).map
      CloudOutcome.outcomeId ≠ some "o2" := by decide +kernel
  exact wrong (congrArg (Option.map CloudOutcome.outcomeId) charged)

end BurnLens.Economics
