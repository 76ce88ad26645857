import BurnLens.Backend.Reconciliation
import Mathlib.Algebra.BigOperators.Group.List.Basic

/-! # Consistency of the cost-confidence report

The sums always agree.  That a reconciled class has a run for every day and that a missing key is
reported where it is missing is so unless a record without usage is counted: the days with spend
leave it out, the classes count it where it carries a class of its own.
-/

namespace BurnLens.Backend

open Library

/-! ## What the report says -/

def ReconciliationTables.HasCredential (db : ReconciliationTables) (workspaceId provider : Str) :
    Prop :=
  ∃ credential ∈ db.credentials, credential.key = (workspaceId, provider)

instance (db : ReconciliationTables) (workspaceId provider : Str) :
    Decidable (db.HasCredential workspaceId provider) :=
  inferInstanceAs (Decidable (∃ credential ∈ db.credentials, _))

/-- The day has a run within the threshold. -/
def ReconciliationTables.Agreed (db : ReconciliationTables) (workspaceId provider : Str)
    (day : Int) : Prop :=
  ∃ run ∈ db.runs, run.key = (workspaceId, provider, day) ∧ run.status = .reconciled

instance (db : ReconciliationTables) (workspaceId provider : Str) (day : Int) :
    Decidable (db.Agreed workspaceId provider day) :=
  inferInstanceAs (Decidable (∃ run ∈ db.runs, _))

def ConfidenceKey.cls (key : ConfidenceKey) (status : List (Str × Option ProviderStatus)) :
    Option ConfidenceClass :=
  (verdict status key).map Prod.fst

/-- The class in which a record is counted; none, where it is excluded. -/
def SpendRecord.cls (record : SpendRecord) (status : List (Str × Option ProviderStatus)) :
    Option ConfidenceClass :=
  record.confidenceKey.cls status

def CostConfidence.bucket (report : CostConfidence) : ConfidenceClass → ConfidenceBucket
  | .reconciled => report.reconciled
  | .calculated => report.calculated
  | .estimated => report.estimated
  | .unpriced => report.unpriced

def classCost (status : List (Str × Option ProviderStatus)) (window : List SpendRecord)
    (cls : ConfidenceClass) : ℚ :=
  sumWhere (fun record => record.cls status = some cls) SpendRecord.costUsd window

/-- Every record is counted once or excluded, and the classes sum to the totals.  The costs are
    rounded one by one as the report shows them. -/
structure AddsUp (status : List (Str × Option ProviderStatus)) (window : List SpendRecord)
    (report : CostConfidence) : Prop where
  requests : ∀ cls, (report.bucket cls).requests =
    (window.filter fun record => record.cls status = some cls).length
  totalRequests : report.totalRequests =
    (confidenceClasses.map fun cls => (report.bucket cls).requests).sum
  excluded : (window.filter fun record => record.cls status = none).length + report.totalRequests =
    window.length
  cost : ∀ cls, (report.bucket cls).costUsd = roundEven 6 (classCost status window cls)
  totalCost : report.totalCostUsd =
    roundEven 6 (confidenceClasses.map (classCost status window)).sum
  shown : (∀ record ∈ window, Decimal 6 record.costUsd) →
    report.totalCostUsd = (confidenceClasses.map fun cls => (report.bucket cls).costUsd).sum

/-- The report of the records of a window. -/
structure Consistent (db : ReconciliationTables) (workspaceId : Str)
    (status : List (Str × Option ProviderStatus)) (window : List SpendRecord)
    (report : CostConfidence) : Prop where
  addsUp : AddsUp status window report
  reconciled : ∀ record ∈ window, record.cls status = some .reconciled →
    db.HasCredential workspaceId record.provider ∧
      ∀ other ∈ window, other.provider = record.provider → other.cls status ≠ none →
        db.Agreed workspaceId record.provider (utcDay other.ts)
  noBillingKey : ∀ record ∈ window, record.cls status ≠ none →
    ((∃ gap ∈ report.gaps, gap.provider = record.provider ∧ gap.reason = .noBillingKey) ↔
      ¬ db.HasCredential workspaceId record.provider)

/-- The class that the record has of its own. -/
def SpendRecord.localClass (record : SpendRecord) : Option ConfidenceClass :=
  Backend.localClass record.pricingState (record.isScan.getD false) record.pricingClass

def SpendRecord.Used (record : SpendRecord) : Prop := record.pricingState ≠ .noUsage

def SpendRecord.Priced (record : SpendRecord) : Prop :=
  ∃ cls, record.localClass = some cls ∧ cls ≠ .unpriced

/-- A record without usage that carries a class, of a provider with a credential: the provider has
    a record with usage too, and where its days with usage agree with the bill and it has a priced
    record, the day of the record agrees as well. -/
def ReconciliationTables.IdleCovered (db : ReconciliationTables) (workspaceId : Str)
    (window : List SpendRecord) : Prop :=
  ∀ idle ∈ window, ¬ idle.Used → storedClass idle.pricingClass ≠ none →
    db.HasCredential workspaceId idle.provider →
    (∃ used ∈ window, used.provider = idle.provider ∧ used.Used) ∧
      ((∀ used ∈ window, used.provider = idle.provider → used.Used →
          db.Agreed workspaceId idle.provider (utcDay used.ts)) →
        (∃ priced ∈ window, priced.provider = idle.provider ∧ priced.Priced) →
        db.Agreed workspaceId idle.provider (utcDay idle.ts))

section

variable {db : ReconciliationTables} {orders : QueryOrders} {workspaceId provider : Str}
  {since before : Int} {days : Nat} {window : List SpendRecord} {record : SpendRecord}
  {status : List (Str × Option ProviderStatus)} {rows : List PeriodStatusRow}

/-! ## The state of a provider -/

theorem SpendRecord.used_iff : record.Used ↔ 0 < record.costUsd ∨ 0 < record.tokens := by
  rw [SpendRecord.Used, SpendRecord.pricingState]
  by_cases cost : 0 < record.costUsd
  · simp [cost]
  · by_cases tokens : 0 < record.tokens <;> simp [cost, tokens]

theorem mem_spendDays {spendDay : Str × Int} : spendDay ∈ spendDays window ↔
    ∃ used ∈ window, used.Used ∧ (used.provider, utcDay used.ts) = spendDay := by
  simp only [spendDays, List.mem_dedup, List.mem_map, List.mem_filter, decide_eq_true_eq, and_assoc,
    SpendRecord.used_iff]

def ReconciliationTables.statusRow (db : ReconciliationTables) (workspaceId : Str)
    (spendDay : Str × Int) : PeriodStatusRow where
  provider := spendDay.1
  day := spendDay.2
  hasCredential := (db.credentials.find? fun credential =>
    credential.key = (workspaceId, spendDay.1)).isSome
  run := db.runs.find? fun run => run.key = (workspaceId, spendDay.1, spendDay.2)

theorem periodStatusRows_eq : db.periodStatusRows workspaceId window =
    (spendDays window).map (db.statusRow workspaceId) := by
  rw [ReconciliationTables.periodStatusRows, List.map_eq_flatMap]
  apply List.flatMap_congr
  intro spendDay _
  rw [leftJoin_eq_find? db.credentialsDistinct (workspaceId, spendDay.1),
    leftJoin_eq_find? db.runsDistinct (workspaceId, spendDay.1, spendDay.2)]
  · rfl
  · intro run on
    exact of_decide_eq_true on
  · intro credential on
    exact of_decide_eq_true on

theorem statusRow_hasCredential {spendDay : Str × Int} :
    (db.statusRow workspaceId spendDay).hasCredential = true ↔
      db.HasCredential workspaceId spendDay.1 := by
  simp [ReconciliationTables.statusRow, ReconciliationTables.HasCredential]

theorem mem_of_statusRow_run {spendDay : Str × Int} {run : ReconciliationRun}
    (found : (db.statusRow workspaceId spendDay).run = some run) :
    run ∈ db.runs ∧ run.key = (workspaceId, spendDay.1, spendDay.2) := by
  dsimp only [ReconciliationTables.statusRow] at found
  have key := List.find?_some found
  exact ⟨List.mem_of_find?_eq_some found, of_decide_eq_true key⟩

theorem statusRow_run {spendDay : Str × Int} :
    (∃ run, (db.statusRow workspaceId spendDay).run = some run ∧ run.status = .reconciled) ↔
      db.Agreed workspaceId spendDay.1 spendDay.2 := by
  constructor
  · rintro ⟨run, found, agreed⟩
    obtain ⟨member, key⟩ := mem_of_statusRow_run found
    exact ⟨run, member, key, agreed⟩
  · rintro ⟨run, member, key, agreed⟩
    cases found : (db.statusRow workspaceId spendDay).run with
    | none => exact absurd (decide_eq_true key) (List.find?_eq_none.mp found run member)
    | some other =>
      -- the primary key leaves one run
      obtain ⟨there, its⟩ := mem_of_statusRow_run found
      obtain rfl := List.inj_on_of_nodup_map db.runsDistinct member there (key.trans its.symm)
      exact ⟨run, rfl, agreed⟩

theorem ReconciliationRun.status_eq_or (run : ReconciliationRun) :
    run.status = .reconciled ∨ run.status = .drifted := by
  unfold ReconciliationRun.status classify
  cases run.driftPct with
  | none =>
    dsimp only
    split
    · exact .inl rfl
    · exact .inr rfl
  | some drift =>
    dsimp only
    split
    · exact .inl rfl
    · exact .inr rfl

theorem periodProviderStatus_eq_none :
    periodProviderStatus rows = none ↔ ∃ row ∈ rows, row.hasCredential = false := by
  rw [periodProviderStatus]
  split
  · next all =>
    simp only [List.all_eq_true] at all
    have some : ∀ row ∈ rows, row.hasCredential ≠ false := fun row member => by simp [all row member]
    constructor
    · intro none
      split at none
      · cases none
      · split at none <;> cases none
    · rintro ⟨row, member, without⟩
      exact absurd without (some row member)
  · next some => simpa using some

theorem periodProviderStatus_eq_reconciled :
    periodProviderStatus rows = some .reconciled ↔
      ∀ row ∈ rows, row.hasCredential = true ∧
        ∃ run, row.run = some run ∧ run.status = .reconciled := by
  rw [periodProviderStatus]
  constructor
  · intro reconciled row member
    split at reconciled
    · next all =>
      split at reconciled
      · cases reconciled
      · next every =>
        split at reconciled
        · cases reconciled
        · next none =>
          refine ⟨List.all_eq_true.mp all row member, ?_⟩
          cases run : row.run with
          | none => exact absurd (List.any_eq_true.mpr ⟨row, member, by rw [run]; rfl⟩) every
          | some its =>
            refine ⟨its, rfl, its.status_eq_or.resolve_right fun drifted => none ?_⟩
            exact List.mem_map.mpr ⟨its, List.mem_filterMap.mpr ⟨row, member, run⟩, drifted⟩
    · cases reconciled
  · intro each
    have all : rows.all PeriodStatusRow.hasCredential = true :=
      List.all_eq_true.mpr fun row member => (each row member).1
    have every : ¬ (rows.any fun row => row.run.isNone) = true := by
      rw [List.any_eq_true]
      rintro ⟨row, member, none⟩
      obtain ⟨run, some, _⟩ := (each row member).2
      rw [some] at none
      cases none
    have none : ProviderStatus.drifted ∉
        (rows.filterMap PeriodStatusRow.run).map ReconciliationRun.status := by
      intro member
      obtain ⟨run, found, drifted⟩ := List.mem_map.mp member
      obtain ⟨row, inRows, its⟩ := List.mem_filterMap.mp found
      obtain ⟨other, same, reconciled⟩ := (each row inRows).2
      cases its.symm.trans same
      rw [drifted] at reconciled
      cases reconciled
    rw [if_pos all, if_neg every, if_neg none]

theorem getStatus_build : getStatus (buildPeriodProviderStatus rows) provider =
    if provider ∈ rows.map PeriodStatusRow.provider then
      periodProviderStatus (rows.filter fun row => row.provider = provider)
    else none := by
  rw [getStatus, buildPeriodProviderStatus, lookup_map_key]
  simp only [List.mem_dedup]
  split <;> rfl

theorem mem_rows_of {row : PeriodStatusRow} :
    row ∈ (orders.periodStatus.order (db.periodStatusRows workspaceId window)).filter
        (fun row => row.provider = provider) ↔
      ∃ used ∈ window, used.provider = provider ∧ used.Used ∧
        db.statusRow workspaceId (provider, utcDay used.ts) = row := by
  rw [List.mem_filter, (orders.periodStatus.perm _).mem_iff, periodStatusRows_eq, List.mem_map]
  simp only [mem_spendDays, decide_eq_true_eq]
  constructor
  · rintro ⟨⟨_, ⟨used, member, usage, rfl⟩, rfl⟩, rfl⟩
    exact ⟨used, member, rfl, usage, rfl⟩
  · rintro ⟨used, member, rfl, usage, rfl⟩
    exact ⟨⟨_, ⟨used, member, usage, rfl⟩, rfl⟩, rfl⟩

theorem mem_providers : provider ∈ (orders.periodStatus.order
      (db.periodStatusRows workspaceId window)).map PeriodStatusRow.provider ↔
    ∃ used ∈ window, used.provider = provider ∧ used.Used := by
  rw [List.mem_map]
  constructor
  · rintro ⟨row, member, its⟩
    obtain ⟨used, there, own, usage, _⟩ :=
      mem_rows_of.mp (List.mem_filter.mpr ⟨member, decide_eq_true its⟩)
    exact ⟨used, there, own, usage⟩
  · rintro ⟨used, there, own, usage⟩
    obtain ⟨member, its⟩ := List.mem_filter.mp (mem_rows_of.mpr ⟨used, there, own, usage, rfl⟩)
    exact ⟨_, member, of_decide_eq_true its⟩

theorem getStatus_eq_none :
    getStatus (db.providerStatus orders workspaceId window) provider = none ↔
      (∀ used ∈ window, used.provider = provider → ¬ used.Used) ∨
        ¬ db.HasCredential workspaceId provider := by
  rw [ReconciliationTables.providerStatus, getStatus_build]
  split
  · next there =>
    obtain ⟨used, member, own, usage⟩ := mem_providers.mp there
    rw [periodProviderStatus_eq_none]
    constructor
    · rintro ⟨row, its, without⟩
      obtain ⟨_, _, _, _, rfl⟩ := mem_rows_of.mp its
      right
      intro credential
      rw [statusRow_hasCredential.mpr credential] at without
      cases without
    · rintro (idle | without)
      · exact absurd usage (idle used member own)
      · refine ⟨_, mem_rows_of.mpr ⟨used, member, own, usage, rfl⟩, ?_⟩
        rw [← Bool.not_eq_true, statusRow_hasCredential]
        exact without
  · next absent =>
    apply iff_of_true rfl
    left
    intro used member own usage
    exact absent (mem_providers.mpr ⟨used, member, own, usage⟩)

theorem getStatus_eq_reconciled :
    getStatus (db.providerStatus orders workspaceId window) provider = some .reconciled ↔
      (∃ used ∈ window, used.provider = provider ∧ used.Used) ∧
        db.HasCredential workspaceId provider ∧
        ∀ used ∈ window, used.provider = provider → used.Used →
          db.Agreed workspaceId provider (utcDay used.ts) := by
  rw [ReconciliationTables.providerStatus, getStatus_build]
  split
  · next there =>
    obtain ⟨used, member, own, usage⟩ := mem_providers.mp there
    rw [periodProviderStatus_eq_reconciled]
    constructor
    · intro each
      have row : ∀ used ∈ window, used.provider = provider → used.Used →
          db.HasCredential workspaceId provider ∧
            db.Agreed workspaceId provider (utcDay used.ts) := by
        intro used member own usage
        obtain ⟨credential, run⟩ := each _ (mem_rows_of.mpr ⟨used, member, own, usage, rfl⟩)
        exact ⟨statusRow_hasCredential.mp credential, statusRow_run.mp run⟩
      exact ⟨⟨used, member, own, usage⟩, (row used member own usage).1,
        fun used member own usage => (row used member own usage).2⟩
    · rintro ⟨_, credential, agreed⟩ row its
      obtain ⟨used, member, own, usage, rfl⟩ := mem_rows_of.mp its
      exact ⟨statusRow_hasCredential.mpr credential,
        statusRow_run.mpr (agreed used member own usage)⟩
  · next absent =>
    apply iff_of_false (by simp)
    rintro ⟨used, _⟩
    exact absent (mem_providers.mpr used)

/-! ## The class of a record -/

theorem SpendRecord.localClass_eq_none : record.localClass = none ↔
    ¬ record.Used ∧ storedClass record.pricingClass = none := by
  unfold SpendRecord.localClass Backend.localClass
  rw [SpendRecord.Used, not_not]
  cases storedClass record.pricingClass with
  | some stored => simp
  | none => cases record.pricingState <;> simp

theorem SpendRecord.localClass_ne_reconciled : record.localClass ≠ some .reconciled := by
  have stored : storedClass record.pricingClass ≠ some .reconciled := by
    unfold storedClass
    split
    · simp
    · split
      · simp
      · split <;> simp
  unfold SpendRecord.localClass Backend.localClass
  cases its : storedClass record.pricingClass with
  | some cls =>
    rw [its] at stored
    exact stored
  | none =>
    cases record.pricingState with
    | priced => cases record.isScan.getD false <;> simp
    | unpriced => simp
    | noUsage => simp

theorem SpendRecord.cls_eq : record.cls status = record.localClass.map fun own =>
    if own = .unpriced then .unpriced
    else if getStatus status record.provider = some .reconciled then .reconciled
    else own := by
  rw [SpendRecord.cls, ConfidenceKey.cls, verdict, classifyRow, Option.map_map]
  rfl

theorem SpendRecord.cls_eq_none : record.cls status = none ↔
    ¬ record.Used ∧ storedClass record.pricingClass = none := by
  rw [SpendRecord.cls_eq, Option.map_eq_none_iff, SpendRecord.localClass_eq_none]

theorem SpendRecord.cls_eq_reconciled : record.cls status = some .reconciled ↔
    record.Priced ∧ getStatus status record.provider = some .reconciled := by
  rw [SpendRecord.cls_eq, Option.map_eq_some_iff, SpendRecord.Priced]
  constructor
  · rintro ⟨own, its, reconciled⟩
    split at reconciled
    · cases reconciled
    · next priced =>
      split at reconciled
      · next agreed => exact ⟨⟨own, its, priced⟩, agreed⟩
      · exact absurd (reconciled ▸ its) SpendRecord.localClass_ne_reconciled
  · rintro ⟨⟨own, its, priced⟩, agreed⟩
    exact ⟨own, its, by rw [if_neg priced, if_pos agreed]⟩

/-! ## The loop over the groups -/

variable {tally : ConfidenceTally}

/-- What the loop does with a group: it goes to its class, if it has one. -/
theorem tallyRow_cost (row : ConfidenceRow) (cls : ConfidenceClass) :
    (tallyRow status tally row).cost cls =
      tally.cost cls + if row.cls status = some cls then row.cost else 0 := by
  unfold tallyRow ConfidenceKey.cls
  cases verdict status row.toConfidenceKey with
  | none => simp
  | some its => simp [update_add]

theorem tallyRow_reqs (row : ConfidenceRow) (cls : ConfidenceClass) :
    (tallyRow status tally row).reqs cls =
      tally.reqs cls + if row.cls status = some cls then row.requests else 0 := by
  unfold tallyRow ConfidenceKey.cls
  cases verdict status row.toConfidenceKey with
  | none => simp
  | some its => simp [update_add]

theorem tallyRow_spendProviders (row : ConfidenceRow) :
    provider ∈ (tallyRow status tally row).spendProviders ↔
      provider ∈ tally.spendProviders ∨ row.provider = provider ∧ row.cls status ≠ none := by
  unfold tallyRow ConfidenceKey.cls
  cases verdict status row.toConfidenceKey with
  | none => simp
  | some its => simp [List.mem_insert_iff, eq_comm, or_comm]

theorem foldl_cost (groups : List ConfidenceRow) (cls : ConfidenceClass) :
    (groups.foldl (tallyRow status) tally).cost cls = tally.cost cls +
      sumWhere (fun row => row.cls status = some cls) ConfidenceRow.cost groups := by
  induction groups generalizing tally with
  | nil => simp
  | cons row groups inductionHypothesis =>
    rw [List.foldl_cons, inductionHypothesis, tallyRow_cost, sumWhere_cons, add_assoc]
    simp only [decide_eq_true_eq]

theorem foldl_reqs (groups : List ConfidenceRow) (cls : ConfidenceClass) :
    (groups.foldl (tallyRow status) tally).reqs cls = tally.reqs cls +
      sumWhere (fun row => row.cls status = some cls) ConfidenceRow.requests groups := by
  induction groups generalizing tally with
  | nil => simp
  | cons row groups inductionHypothesis =>
    rw [List.foldl_cons, inductionHypothesis, tallyRow_reqs, sumWhere_cons, add_assoc]
    simp only [decide_eq_true_eq]

theorem foldl_spendProviders (groups : List ConfidenceRow) :
    provider ∈ (groups.foldl (tallyRow status) tally).spendProviders ↔
      provider ∈ tally.spendProviders ∨
        ∃ row ∈ groups, row.provider = provider ∧ row.cls status ≠ none := by
  induction groups generalizing tally with
  | nil => simp
  | cons row groups inductionHypothesis =>
    rw [List.foldl_cons, inductionHypothesis, tallyRow_spendProviders, or_assoc,
      List.exists_mem_cons_iff]

/-- Groups that a property of their key selects have the sums of the records it selects. -/
theorem sumWhere_confidenceRows (window : List SpendRecord) (selects : ConfidenceKey → Bool) :
    sumWhere (fun row => selects row.toConfidenceKey) (fun row => (row.requests, row.cost))
        (confidenceRows window) =
      sumWhere (fun record => selects record.confidenceKey) (fun record => (1, record.costUsd))
        window := by
  rw [confidenceRows, sumWhere_map]
  exact sumWhere_groupSum _ _ selects window

theorem sumWhere_cost (selects : ConfidenceKey → Bool) :
    sumWhere (fun row => selects row.toConfidenceKey) ConfidenceRow.cost
        (orders.confidence.order (confidenceRows window)) =
      sumWhere (fun record => selects record.confidenceKey) SpendRecord.costUsd window := by
  have sums := congrArg (AddMonoidHom.snd ℕ ℚ)
    (sumWhere_confidenceRows window selects)
  rw [map_sumWhere, map_sumWhere] at sums
  rw [sumWhere_perm (orders.confidence.perm _)]
  exact sums

theorem sumWhere_requests (selects : ConfidenceKey → Bool) :
    sumWhere (fun row => selects row.toConfidenceKey) ConfidenceRow.requests
        (orders.confidence.order (confidenceRows window)) =
      (window.filter fun record => selects record.confidenceKey).length := by
  have sums := congrArg (AddMonoidHom.fst ℕ ℚ)
    (sumWhere_confidenceRows window selects)
  rw [map_sumWhere, map_sumWhere] at sums
  rw [sumWhere_perm (orders.confidence.perm _), ← sumWhere_one]
  exact sums

theorem exists_confidenceRow (holds : ConfidenceKey → Prop) :
    (∃ row ∈ orders.confidence.order (confidenceRows window), holds row.toConfidenceKey) ↔
      ∃ record ∈ window, holds record.confidenceKey := by
  simp only [(orders.confidence.perm _).mem_iff, confidenceRows, List.mem_map]
  constructor
  · rintro ⟨_, ⟨group, member, rfl⟩, its⟩
    obtain ⟨record, there, key⟩ := mem_keys_groupSum _ _ |>.mp (List.mem_map_of_mem member)
    refine ⟨record, there, ?_⟩
    rw [Option.some.inj key]
    exact its
  · rintro ⟨record, there, its⟩
    obtain ⟨group, member, key⟩ := List.mem_map.mp
      ((mem_keys_groupSum (fun record => some (SpendRecord.confidenceKey record))
        (fun record => ((1 : Nat), SpendRecord.costUsd record))).mpr ⟨record, there, rfl⟩)
    refine ⟨_, ⟨group, member, rfl⟩, ?_⟩
    rw [key]
    exact its

/-! ## The report -/

theorem bucket_buildConfidence (groups : List ConfidenceRow) (cls : ConfidenceClass) :
    ((buildConfidence status groups days).bucket cls).requests =
        (groups.foldl (tallyRow status) {}).reqs cls ∧
      ((buildConfidence status groups days).bucket cls).costUsd =
        roundEven 6 ((groups.foldl (tallyRow status) {}).cost cls) := by
  cases cls <;> exact ⟨rfl, rfl⟩

theorem bucket_requests (cls : ConfidenceClass) :
    ((buildConfidence status (orders.confidence.order (confidenceRows window)) days).bucket
        cls).requests =
      (window.filter fun record => record.cls status = some cls).length := by
  rw [(bucket_buildConfidence _ cls).1, foldl_reqs, Nat.zero_add]
  exact sumWhere_requests fun key => key.cls status = some cls

theorem tally_cost (cls : ConfidenceClass) :
    ((orders.confidence.order (confidenceRows window)).foldl (tallyRow status) {}).cost cls =
      classCost status window cls := by
  rw [foldl_cost, zero_add]
  exact sumWhere_cost fun key => key.cls status = some cls

theorem classCost_decimal (costs : ∀ record ∈ window, Decimal 6 record.costUsd)
    (cls : ConfidenceClass) : Decimal 6 (classCost status window cls) := by
  apply Decimal.sum
  intro cost member
  obtain ⟨record, there, rfl⟩ := List.mem_map.mp member
  exact costs record (List.mem_filter.mp there).1

theorem buildConfidence_addsUp : AddsUp status window
    (buildConfidence status (orders.confidence.order (confidenceRows window)) days) where
  requests cls := bucket_requests cls
  totalRequests := rfl
  excluded := by
    -- the records of each class and of none are all records
    have distinct : (none :: confidenceClasses.map some).Nodup := by decide
    have all : ∀ record : SpendRecord,
        record.cls status ∈ none :: confidenceClasses.map some := by
      intro record
      cases record.cls status with
      | none => decide
      | some cls => cases cls <;> decide
    have split : ((none :: confidenceClasses.map some).map fun cls =>
        (window.filter fun record => record.cls status = cls).length).sum = window.length := by
      simp only [← sumWhere_one]
      rw [sum_map_sumWhere_of_mem distinct fun record _ => all record]
      simp
    have total : (buildConfidence status (orders.confidence.order (confidenceRows window))
        days).totalRequests = (confidenceClasses.map fun cls => ((buildConfidence status
          (orders.confidence.order (confidenceRows window)) days).bucket cls).requests).sum := rfl
    simp only [bucket_requests] at total
    rw [← split, total]
    rfl
  cost cls := by rw [(bucket_buildConfidence _ cls).2, tally_cost]
  totalCost := by
    rw [← funext tally_cost]
    rfl
  shown costs := by
    have total : Decimal 6 (confidenceClasses.map (classCost status window)).sum := by
      apply Decimal.sum
      intro cost member
      obtain ⟨cls, _, rfl⟩ := List.mem_map.mp member
      exact classCost_decimal costs cls
    have each : ∀ cls, ((buildConfidence status (orders.confidence.order (confidenceRows window))
        days).bucket cls).costUsd = classCost status window cls := by
      intro cls
      rw [(bucket_buildConfidence _ cls).2, tally_cost, (classCost_decimal costs cls).roundEven_eq]
    rw [funext each, ← total.roundEven_eq, ← funext tally_cost]
    rfl

theorem providerGap_noBillingKey {other : Str} :
    (∃ gap, providerGap status other = some gap ∧ gap.provider = provider ∧
        gap.reason = .noBillingKey) ↔ other = provider ∧ getStatus status other = none := by
  unfold providerGap
  cases getStatus status other with
  | none => simp only [Option.some.injEq, exists_eq_left', and_true]
  | some state =>
    cases state <;>
      simp only [Option.some.injEq, exists_eq_left', reduceCtorEq, and_false, false_and, exists_false]

theorem noBillingKey_iff (groups : List ConfidenceRow) :
    (∃ gap ∈ (buildConfidence status groups days).gaps,
        gap.provider = provider ∧ gap.reason = .noBillingKey) ↔
      (∃ row ∈ groups, row.provider = provider ∧ row.cls status ≠ none) ∧
        getStatus status provider = none := by
  have spend : provider ∈ (groups.foldl (tallyRow status) {}).spendProviders ↔
      ∃ row ∈ groups, row.provider = provider ∧ row.cls status ≠ none := by
    rw [foldl_spendProviders]
    simp
  rw [← spend]
  constructor
  · rintro ⟨gap, member, its, reason⟩
    obtain unpriced | missing := List.mem_append.mp member
    · obtain ⟨entry, _, rfl⟩ := List.mem_map.mp unpriced
      cases reason
    · obtain ⟨other, inSpend, gapOf⟩ := List.mem_filterMap.mp missing
      obtain ⟨rfl, none⟩ := providerGap_noBillingKey.mp ⟨gap, gapOf, its, reason⟩
      exact ⟨List.mem_mergeSort.mp inSpend, none⟩
  · rintro ⟨inSpend, none⟩
    obtain ⟨gap, gapOf, its, reason⟩ := providerGap_noBillingKey.mpr ⟨rfl, none⟩
    refine ⟨gap, List.mem_append_right _ ?_, its, reason⟩
    exact List.mem_filterMap.mpr ⟨provider, List.mem_mergeSort.mpr inSpend, gapOf⟩

/-- A gap for a missing key is reported for the providers that have counted records and no
    status. -/
theorem noBillingKey_window :
    (∃ gap ∈ (buildConfidence status (orders.confidence.order (confidenceRows window)) days).gaps,
        gap.provider = provider ∧ gap.reason = .noBillingKey) ↔
      (∃ record ∈ window, record.provider = provider ∧ record.cls status ≠ none) ∧
        getStatus status provider = none := by
  rw [noBillingKey_iff]
  apply and_congr_left
  intro _
  exact exists_confidenceRow fun key => key.provider = provider ∧ key.cls status ≠ none

theorem noBillingKey_counted (member : record ∈ window)
    (counted : record.cls (db.providerStatus orders workspaceId window) ≠ none) :
    (∃ gap ∈ (buildConfidence (db.providerStatus orders workspaceId window)
        (orders.confidence.order (confidenceRows window)) days).gaps,
        gap.provider = record.provider ∧ gap.reason = .noBillingKey) ↔
      (∀ used ∈ window, used.provider = record.provider → ¬ used.Used) ∨
        ¬ db.HasCredential workspaceId record.provider := by
  rw [noBillingKey_window, getStatus_eq_none]
  exact and_iff_right ⟨record, member, rfl, counted⟩

theorem SpendRecord.stored_of_counted (counted : record.cls status ≠ none) (idle : ¬ record.Used) :
    storedClass record.pricingClass ≠ none :=
  fun none => counted (SpendRecord.cls_eq_none.mpr ⟨idle, none⟩)

theorem ReconciliationTables.IdleCovered.consistent (covered : db.IdleCovered workspaceId window) :
    Consistent db workspaceId (db.providerStatus orders workspaceId window) window
      (buildConfidence (db.providerStatus orders workspaceId window)
        (orders.confidence.order (confidenceRows window)) days) := by
  refine ⟨buildConfidence_addsUp, ?_, ?_⟩
  · intro record member reconciled
    obtain ⟨priced, agrees⟩ := SpendRecord.cls_eq_reconciled.mp reconciled
    obtain ⟨_, credential, agreed⟩ := getStatus_eq_reconciled.mp agrees
    refine ⟨credential, ?_⟩
    intro other there own counted
    by_cases usage : other.Used
    · exact agreed other there own usage
    · rw [← own] at agreed credential ⊢
      apply (covered other there usage (other.stored_of_counted counted usage) credential).2 agreed
      exact ⟨record, member, own.symm, priced⟩
  · intro record member counted
    rw [noBillingKey_counted member counted]
    apply or_iff_right_of_imp
    intro idle credential
    by_cases usage : record.Used
    · exact idle record member rfl usage
    · obtain ⟨used, there, own, its⟩ :=
        (covered record member usage (record.stored_of_counted counted usage) credential).1
      exact idle used there own its

theorem Consistent.idleCovered
    (consistent : Consistent db workspaceId (db.providerStatus orders workspaceId window) window
      (buildConfidence (db.providerStatus orders workspaceId window)
        (orders.confidence.order (confidenceRows window)) days)) :
    db.IdleCovered workspaceId window := by
  intro idle member unused stored credential
  have counted : idle.cls (db.providerStatus orders workspaceId window) ≠ none :=
    fun none => stored (SpendRecord.cls_eq_none.mp none).2
  have usage : ∃ used ∈ window, used.provider = idle.provider ∧ used.Used := by
    by_contra none
    apply (consistent.noBillingKey idle member counted).mp _ credential
    rw [noBillingKey_counted member counted]
    left
    intro used there own its
    exact none ⟨used, there, own, its⟩
  refine ⟨usage, ?_⟩
  rintro agreed ⟨priced, there, own, its⟩
  have reconciled : priced.cls (db.providerStatus orders workspaceId window) = some .reconciled := by
    rw [SpendRecord.cls_eq_reconciled, own, getStatus_eq_reconciled]
    exact ⟨its, usage, credential, agreed⟩
  rw [← own]
  exact (consistent.reconciled priced there reconciled).2 idle member own.symm counted

/-- The report is consistent exactly where the records without usage that it counts are
    covered. -/
theorem confidence_consistent (db : ReconciliationTables) (orders : QueryOrders) (workspaceId : Str)
    (since before : Int) (days : Nat) :
    Consistent db workspaceId
        (db.providerStatus orders workspaceId (db.window workspaceId since before))
        (db.window workspaceId since before)
        (db.confidence orders workspaceId since before days) ↔
      db.IdleCovered workspaceId (db.window workspaceId since before) :=
  ⟨Consistent.idleCovered, fun covered => covered.consistent⟩

end

/-! ## A record without usage -/

def stableOrders : QueryOrders := ⟨OrderBy.stable _, OrderBy.stable _⟩

def calculatedCall (ts : Int) (inputTokens : Int) (costUsd : ℚ) : SpendRecord where
  workspaceId := "acme"
  ts := ts
  provider := "openai"
  model := "gpt-5"
  inputTokens := inputTokens
  costUsd := costUsd
  pricingClass := some ("calculated" : Str)

/-- A credential, and a run on the first day that agrees. -/
def firstDayAgreed (records : List SpendRecord) : ReconciliationTables where
  records := records
  credentials := [⟨"acme", "openai"⟩]
  runs := [⟨"acme", "openai", 0, 1 / 2, some 0⟩]
  credentialsDistinct := by decide
  runsDistinct := by decide

/-- A call of the first day, and an answer without tokens on the second. -/
def callAndFailure : ReconciliationTables :=
  firstDayAgreed [calculatedCall 5 4 (1 / 2), calculatedCall 86400000005 0 0]

def failureAlone : ReconciliationTables := firstDayAgreed [calculatedCall 86400000005 0 0]

def twoDays (db : ReconciliationTables) : CostConfidence :=
  db.confidence stableOrders "acme" 0 172800000000 2

def TwoDaysConsistent (db : ReconciliationTables) : Prop :=
  Consistent db "acme" (db.providerStatus stableOrders "acme" (db.window "acme" 0 172800000000))
    (db.window "acme" 0 172800000000) (twoDays db)

/-- A day without a run is reconciled, and a key that is stored is reported missing. -/
theorem idle_record_counted :
    ((twoDays callAndFailure).reconciled.requests = 2 ∧
        ¬ callAndFailure.Agreed "acme" "openai" 1 ∧ ¬ TwoDaysConsistent callAndFailure) ∧
      ((twoDays failureAlone).gaps.map fun gap => (gap.provider, gap.reason)) =
          [(("openai" : Str), GapReason.noBillingKey)] ∧
        failureAlone.HasCredential "acme" "openai" ∧ ¬ TwoDaysConsistent failureAlone := by
  have disagreed : ¬ callAndFailure.Agreed "acme" "openai" 1 := by decide +kernel
  have credential : failureAlone.HasCredential "acme" "openai" := by decide +kernel
  refine ⟨⟨by decide +kernel, disagreed, ?_⟩, by decide +kernel, credential, ?_⟩
  · intro consistent
    apply disagreed
    have first : calculatedCall 5 4 (1 / 2) ∈ callAndFailure.window "acme" 0 172800000000 := by
      decide +kernel
    have second : calculatedCall 86400000005 0 0 ∈
        callAndFailure.window "acme" 0 172800000000 := by decide +kernel
    exact (consistent.reconciled _ first (by decide +kernel)).2 _ second rfl (by decide +kernel)
  · intro consistent
    have member : calculatedCall 86400000005 0 0 ∈
        failureAlone.window "acme" 0 172800000000 := by decide +kernel
    apply (consistent.noBillingKey _ member (by decide +kernel)).mp _ credential
    decide +kernel

end BurnLens.Backend
