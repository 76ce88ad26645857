import BurnLens.Findings.Lifecycle
import BurnLens.Library.Credits
import Mathlib.Algebra.Group.Pi.Basic
import Mathlib.Algebra.Group.Prod

/-! # The rollup of savings

`savings_rollup` of one workspace, here and in the cloud: what the resolved findings had promised, and
what of it has been verified.  Findings with one change and cohort are credited once.
-/

namespace BurnLens.Findings

open Library

/-! ## The code -/

/-- The table, with its primary key. -/
structure FindingSet where
  rows : FindingTable
  distinct : (rows.map StoredFinding.fingerprint).Nodup

def FindingTable.measured (rows : FindingTable) : FindingTable :=
  rows.filter fun row => row.baselineRequests.isSome

def toMonthly (wasteUsd : Option ℚ) (windowDays : Option Int) : ℚ :=
  -- a window of 0 days counts as none
  let days : Int := match windowDays with
    | none | some 0 => 7
    | some days => days
  wasteUsd.getD 0 * (30 / days)

def StoredFinding.predicted (row : StoredFinding) : ℚ :=
  toMonthly row.baselineWasteUsd row.baselineWindowDays

/-- `predicted.get(fingerprint, 0.0)` -/
def FindingTable.predicted (rows : FindingTable) (fingerprint : Str) : ℚ :=
  (rows.measured.reverse.find? fun row => row.fingerprint = fingerprint).elim 0
    StoredFinding.predicted

/-- A text of the verification of a finding; only `set_finding_status` writes one. -/
def StoredFinding.verificationText (row : StoredFinding) (name : Str) : Option Str :=
  match row.verification.bind fun verification => verification.get? name with
  | some (.str text) => given (some text)
  | _ => none

/-- A verdict with what the credit key reads of it. -/
structure RollupVerdict where
  fingerprint : Str
  verdict : SavingsVerdict
  changeReference : Option Str
  cohortKey : Str

def rollupVerdict (site : Site) (rows : FindingTable) (traffic : Traffic) (now : Moment)
    (fingerprint : Str) : Option RollupVerdict :=
  (rows.row? fingerprint).bind fun row =>
    (verifySavings site rows traffic now fingerprint).map fun verdict =>
      { fingerprint
        verdict
        changeReference := row.verificationText "change_reference"
        cohortKey := (row.verificationText "cohort_key").getD
          (row.subjectType ++ ":" ++ row.subjectKey) }

namespace RollupVerdict

variable (v : RollupVerdict)

/-- `projected_monthly_savings_usd or 0.0` -/
def savings : ℚ := (v.verdict.comparison.map Comparison.projectedMonthlySavingsUsd).getD 0

/-- The change and the cohort, where a change is given; the cohort is never empty. -/
def change : Option (Str × Str) := v.changeReference.map fun reference => (reference, v.cohortKey)

/-- `_savings_credit_key` -/
def creditKey : Str × Str := v.change.getD ("finding", v.fingerprint)

end RollupVerdict

def verdicts (site : Site) (rows : FindingTable) (traffic : Traffic) (now : Moment) :
    List RollupVerdict :=
  rows.measured.filterMap fun row => rollupVerdict site rows traffic now row.fingerprint

def verifyAllResolved (site : Site) (rows : FindingTable) (traffic : Traffic) (now : Moment) :
    List RollupVerdict :=
  ranked RollupVerdict.savings (verdicts site rows traffic now)

/-- The sums that the loop of `savings_rollup` makes. -/
structure SavingsSums where
  creditedPredicted : ℚ := 0
  sharedPredicted : ℚ := 0
  verifiedActual : ℚ := 0
  totals : VerdictStatus → ℚ := fun _ => 0
  counts : VerdictStatus → Nat := fun _ => 0
  shared : Nat := 0

def VerdictStatus.totalled : VerdictStatus → Bool
  | .verified | .missed | .pending | .inconclusive => true
  | .noBaseline | .noTraffic => false

def SavingsSums.credit (sums : SavingsSums) (predicted : ℚ) (v : RollupVerdict) : SavingsSums :=
  let status := v.verdict.status
  { sums with
    creditedPredicted := sums.creditedPredicted + predicted
    counts := Function.update sums.counts status (sums.counts status + 1)
    totals :=
      if status.totalled then Function.update sums.totals status (sums.totals status + predicted)
      else sums.totals
    verifiedActual :=
      if status = .verified then sums.verifiedActual + v.savings else sums.verifiedActual }

def SavingsSums.share (sums : SavingsSums) (predicted : ℚ) : SavingsSums :=
  { sums with shared := sums.shared + 1, sharedPredicted := sums.sharedPredicted + predicted }

/-- One verdict of the loop; its credited keys are those of the verdicts that it has credited. -/
def tallyStep (predicted : Str → ℚ) (state : SavingsSums × List RollupVerdict) (v : RollupVerdict) :
    SavingsSums × List RollupVerdict :=
  if state.2.any fun credited => credited.creditKey = v.creditKey then
    (state.1.share (predicted v.fingerprint), state.2)
  else (state.1.credit (predicted v.fingerprint) v, state.2 ++ [v])

def tally (site : Site) (rows : FindingTable) (traffic : Traffic) (now : Moment) :
    SavingsSums × List RollupVerdict :=
  (verifyAllResolved site rows traffic now).foldl (tallyStep rows.predicted) ({}, [])

structure SavingsRollup where
  openProjectedMonthlyUsd : ℚ
  resolvedPredictedMonthlyUsd : ℚ
  sharedPredictedMonthlyUsd : ℚ
  verifiedMonthlyUsd : ℚ
  missedPredictedMonthlyUsd : ℚ
  verifyingPredictedMonthlyUsd : ℚ
  inconclusivePredictedMonthlyUsd : ℚ
  realisationPct : Option ℚ
  -- the entries of `counts`, 0 where there is none
  counts : VerdictStatus → Nat
  shared : Nat
  opened : Nat

def SavingsSums.rollup (sums : SavingsSums) (openWaste : ℚ) (opened : Nat) : SavingsRollup :=
  let judged := sums.totals .verified + sums.totals .missed
  { openProjectedMonthlyUsd := roundEven 6 openWaste
    resolvedPredictedMonthlyUsd := roundEven 6 sums.creditedPredicted
    sharedPredictedMonthlyUsd := roundEven 6 sums.sharedPredicted
    verifiedMonthlyUsd := roundEven 6 sums.verifiedActual
    missedPredictedMonthlyUsd := roundEven 6 (sums.totals .missed)
    verifyingPredictedMonthlyUsd := roundEven 6 (sums.totals .pending)
    inconclusivePredictedMonthlyUsd := roundEven 6 (sums.totals .inconclusive)
    realisationPct :=
      if judged = 0 then none else some (roundEven 1 (sums.verifiedActual / judged * 100))
    counts := sums.counts
    shared := sums.shared
    opened := opened }

/-- `status IN ('open', 'acknowledged')` -/
def FindingTable.outstanding (rows : FindingTable) : FindingTable :=
  rows.filter fun row => row.status = .opened || row.status = .acknowledged

def savingsRollup (site : Site) (rows : FindingTable) (traffic : Traffic) (now : Moment) :
    SavingsRollup :=
  (tally site rows traffic now).1.rollup
    (rows.outstanding.map StoredFinding.estimatedWasteUsd).sum rows.outstanding.length

/-- Every change is credited once, and every finding without a change. -/
structure CreditedOnce (all credited : List RollupVerdict) : Prop where
  nodup : credited.Nodup
  changes : ∀ v ∈ all, ∀ c, v.change = some c → ∃! w, w ∈ credited ∧ w.change = some c
  others : ∀ v ∈ all, v.change = none → v ∈ credited

structure SavingsSound (site : Site) (s : FindingSet) (traffic : Traffic) (now : Moment) : Prop where
  once : CreditedOnce (verdicts site s.rows traffic now) (tally site s.rows traffic now).2
  conserved : (tally site s.rows traffic now).1.creditedPredicted +
    (tally site s.rows traffic now).1.sharedPredicted =
      (s.rows.measured.map StoredFinding.predicted).sum
  -- before and after the rounding
  unordered : ∀ other : FindingSet, other.rows.Perm s.rows →
    (tally site other.rows traffic now).1 = (tally site s.rows traffic now).1 ∧
      savingsRollup site other.rows traffic now = savingsRollup site s.rows traffic now

/-- No change `finding` has the fingerprint of a finding without a change as its cohort. -/
def ReferencesApart (all : List RollupVerdict) : Prop :=
  ∀ a ∈ all, ∀ b ∈ all, a.change = none → b.change ≠ some ("finding".toList, a.fingerprint)

/-- Of one credit key, those of the greatest savings have one status and one prediction. -/
def TiesAgree (predicted : Str → ℚ) (all : List RollupVerdict) : Prop :=
  LeadersAgree RollupVerdict.creditKey RollupVerdict.savings
    (fun v => (v.verdict.status, predicted v.fingerprint)) all

/-! ## The order of the rows -/

section

variable {site : Site} {rows other : FindingTable} {traffic : Traffic} {now : Moment}
  {fingerprint : Str} {row : StoredFinding} {v : RollupVerdict}

theorem find?_iff_of_nodup {table : FindingTable}
    (distinct : (table.map StoredFinding.fingerprint).Nodup) :
    table.find? (fun row => row.fingerprint = fingerprint) = some row ↔
      row ∈ table ∧ row.fingerprint = fingerprint := by
  constructor
  · intro found
    exact ⟨List.mem_of_find?_eq_some found, of_decide_eq_true (List.find?_some found :)⟩
  · rintro ⟨member, rfl⟩
    cases found : table.find? fun other => other.fingerprint = row.fingerprint with
    | none => exact absurd (decide_eq_true rfl) (List.find?_eq_none.mp found row member)
    | some other =>
      have its := of_decide_eq_true (List.find?_some found :)
      rw [List.inj_on_of_nodup_map distinct (List.mem_of_find?_eq_some found) member its]

theorem find?_perm {table : FindingTable} (perm : other.Perm table)
    (distinct : (table.map StoredFinding.fingerprint).Nodup) :
    other.find? (fun row => row.fingerprint = fingerprint) =
      table.find? fun row => row.fingerprint = fingerprint := by
  have distinct' := (perm.map StoredFinding.fingerprint).nodup_iff.mpr distinct
  ext row
  rw [find?_iff_of_nodup distinct, find?_iff_of_nodup distinct', perm.mem_iff]

theorem rollupVerdict_congr (same : other.row? fingerprint = rows.row? fingerprint) :
    rollupVerdict site other traffic now fingerprint =
      rollupVerdict site rows traffic now fingerprint := by
  simp only [rollupVerdict, verifySavings, same]

theorem verdicts_perm (perm : other.Perm rows)
    (distinct : (rows.map StoredFinding.fingerprint).Nodup) :
    verdicts site other traffic now = other.measured.filterMap fun row =>
      rollupVerdict site rows traffic now row.fingerprint :=
  List.filterMap_congr fun _ _ => rollupVerdict_congr (find?_perm perm distinct)

theorem predicted_perm (perm : other.Perm rows)
    (distinct : (rows.map StoredFinding.fingerprint).Nodup) : other.predicted = rows.predicted := by
  have distinct' : (rows.measured.reverse.map StoredFinding.fingerprint).Nodup := by
    rw [List.map_reverse, List.nodup_reverse]
    exact distinct.sublist (List.filter_sublist.map _)
  have measured : other.measured.reverse.Perm rows.measured.reverse :=
    (List.reverse_perm _).trans ((perm.filter _).trans (List.reverse_perm _).symm)
  funext fingerprint
  rw [FindingTable.predicted, find?_perm measured distinct']
  rfl

theorem rollupVerdict_of_mem (site : Site) (traffic : Traffic) (now : Moment)
    (distinct : (rows.map StoredFinding.fingerprint).Nodup) (member : row ∈ rows) :
    ∃ v, rollupVerdict site rows traffic now row.fingerprint = some v := by
  have found : rows.row? row.fingerprint = some row := (find?_iff_of_nodup distinct).mpr ⟨member, rfl⟩
  simp only [rollupVerdict, verifySavings, found, Option.bind_some, Option.map_some]
  exact ⟨_, rfl⟩

theorem predicted_of_mem (distinct : (rows.map StoredFinding.fingerprint).Nodup)
    (member : row ∈ rows.measured) : rows.predicted row.fingerprint = row.predicted := by
  have distinct' : (rows.measured.reverse.map StoredFinding.fingerprint).Nodup := by
    rw [List.map_reverse, List.nodup_reverse]
    exact distinct.sublist (List.filter_sublist.map _)
  rw [FindingTable.predicted,
    (find?_iff_of_nodup distinct').mpr ⟨List.mem_reverse.mpr member, rfl⟩]
  rfl

/-! ## The loop -/

/-- What a credited verdict adds: its prediction, the savings that it verifies, and its prediction and
    one under its status. -/
def worth (predicted : Str → ℚ) (v : RollupVerdict) :
    ℚ × ℚ × (VerdictStatus → ℚ) × (VerdictStatus → Nat) :=
  let amount := predicted v.fingerprint
  (amount, if v.verdict.status = .verified then v.savings else 0,
    fun status => if v.verdict.status = status ∧ status.totalled then amount else 0,
    fun status => if v.verdict.status = status then 1 else 0)

def SavingsSums.credited (sums : SavingsSums) :
    ℚ × ℚ × (VerdictStatus → ℚ) × (VerdictStatus → Nat) :=
  (sums.creditedPredicted, sums.verifiedActual, sums.totals, sums.counts)

theorem credited_credit (sums : SavingsSums) (predicted : Str → ℚ) (v : RollupVerdict) :
    (sums.credit (predicted v.fingerprint) v).credited = sums.credited + worth predicted v := by
  refine Prod.ext rfl (Prod.ext ?_ (Prod.ext (funext fun status => ?_) (funext fun status => ?_)))
  · simp only [SavingsSums.credit, SavingsSums.credited, worth, Prod.snd_add, Prod.fst_add]
    split
    · rfl
    · rw [add_zero]
  · simp only [SavingsSums.credit, SavingsSums.credited, worth, Prod.snd_add, Prod.fst_add,
      Pi.add_apply]
    by_cases its : v.verdict.status = status
    · subst its
      cases v.verdict.status.totalled with
      | false => simp
      | true => simp
    · simp only [its, false_and, if_false, add_zero]
      split
      · rw [Function.update_of_ne (Ne.symm its)]
      · rfl
  · simp only [SavingsSums.credit, SavingsSums.credited, worth, Prod.snd_add, Pi.add_apply]
    by_cases its : v.verdict.status = status
    · subst its
      simp
    · simp [its, Function.update_of_ne (Ne.symm its)]

/-- What the loop has after some verdicts. -/
structure Tallied (predicted : Str → ℚ) (all : List RollupVerdict)
    (state : SavingsSums × List RollupVerdict) : Prop where
  credited : state.2 = importAll RollupVerdict.creditKey [] all
  sums : state.1.credited = (state.2.map (worth predicted)).sum
  conserved : state.1.creditedPredicted + state.1.sharedPredicted =
    (all.map fun v => predicted v.fingerprint).sum
  shared : state.2.length + state.1.shared = all.length

theorem tallied_step {predicted : Str → ℚ} {all : List RollupVerdict}
    {state : SavingsSums × List RollupVerdict} (tallied : Tallied predicted all state)
    (v : RollupVerdict) : Tallied predicted (all ++ [v]) (tallyStep predicted state v) := by
  obtain ⟨credited, sums, conserved, shared⟩ := tallied
  have next : importAll RollupVerdict.creditKey [] (all ++ [v]) =
      insertNew RollupVerdict.creditKey state.2 v := by
    rw [importAll_append, credited]
    rfl
  have total : ((all ++ [v]).map fun v => predicted v.fingerprint).sum =
      (all.map fun v => predicted v.fingerprint).sum + predicted v.fingerprint := by
    rw [List.map_append, List.sum_append, List.map_singleton, List.sum_singleton]
  rw [tallyStep]
  split
  · next known =>
    refine ⟨?_, sums, ?_, ?_⟩
    · rw [next, insertNew, if_pos known]
    · rw [total, ← conserved, add_assoc]
      rfl
    · rw [List.length_append, List.length_singleton, ← shared, Nat.add_assoc]
      rfl
  · next new =>
    refine ⟨?_, ?_, ?_, ?_⟩
    · rw [next, insertNew, if_neg new]
    · rw [credited_credit, sums, List.map_append, List.sum_append, List.map_singleton,
        List.sum_singleton]
    · rw [total, ← conserved, SavingsSums.credit]
      exact add_right_comm ..
    · rw [List.length_append, List.length_append, List.length_singleton, ← shared]
      exact Nat.add_right_comm ..

theorem tallied (site : Site) (rows : FindingTable) (traffic : Traffic) (now : Moment) :
    Tallied rows.predicted (verifyAllResolved site rows traffic now) (tally site rows traffic now) := by
  rw [tally]
  induction verifyAllResolved site rows traffic now using List.reverseRecOn with
  | nil => exact ⟨rfl, rfl, add_zero 0, rfl⟩
  | append_singleton all v inductionHypothesis =>
    rw [List.foldl_append]
    exact tallied_step inductionHypothesis v

/-! ## Once each -/

theorem fingerprint_of_rollupVerdict
    (found : rollupVerdict site rows traffic now fingerprint = some v) :
    v.fingerprint = fingerprint := by
  obtain ⟨row, -, verdict⟩ := Option.bind_eq_some_iff.mp found
  obtain ⟨_, -, rfl⟩ := Option.map_eq_some_iff.mp verdict
  rfl

theorem rollupVerdict_self (member : v ∈ verdicts site rows traffic now) :
    rollupVerdict site rows traffic now v.fingerprint = some v := by
  obtain ⟨row, -, found⟩ := List.mem_filterMap.mp member
  rw [fingerprint_of_rollupVerdict found]
  exact found

theorem eq_of_fingerprint {a b : RollupVerdict} (hasA : a ∈ verdicts site rows traffic now)
    (hasB : b ∈ verdicts site rows traffic now) (same : a.fingerprint = b.fingerprint) : a = b := by
  have its := rollupVerdict_self hasA
  rw [same, rollupVerdict_self hasB] at its
  exact (Option.some.inj its).symm

theorem creditKey_of_change {c : Str × Str} (changed : v.change = some c) : v.creditKey = c := by
  rw [RollupVerdict.creditKey, changed]
  rfl

theorem creditKey_of_none (unchanged : v.change = none) :
    v.creditKey = ("finding".toList, v.fingerprint) := by
  rw [RollupVerdict.creditKey, unchanged]
  rfl

/-- Of verdicts with fingerprints of their own, one of each credit key. -/
structure OneEach (all credited : List RollupVerdict) : Prop where
  distinct : ∀ a ∈ all, ∀ b ∈ all, a.fingerprint = b.fingerprint → a = b
  among : credited ⊆ all
  keys : (credited.map RollupVerdict.creditKey).Nodup
  every : ∀ v ∈ all, ∃ w ∈ credited, w.creditKey = v.creditKey

theorem OneEach.creditedOnce_iff {all credited : List RollupVerdict} (one : OneEach all credited) :
    CreditedOnce all credited ↔ ReferencesApart all := by
  obtain ⟨distinct, among, keys, every⟩ := one
  constructor
  · intro once a hasA b hasB unchanged changed
    have credited := once.others a hasA unchanged
    obtain ⟨w, ⟨here, its⟩, -⟩ := once.changes b hasB _ changed
    -- both would be credited under one key
    have same : a = w := List.inj_on_of_nodup_map keys credited here
      ((creditKey_of_none unchanged).trans (creditKey_of_change its).symm)
    rw [same, its] at unchanged
    cases unchanged
  · intro apart
    refine ⟨keys.of_map _, fun v member c changed => ?_, fun v member unchanged => ?_⟩
    · obtain ⟨w, here, same⟩ := every v member
      rw [creditKey_of_change changed] at same
      have its : w.change = some c := by
        cases change : w.change with
        | none =>
          rw [creditKey_of_none change] at same
          exact absurd (changed.trans (congrArg some same.symm))
            (apart w (among here) v member change)
        | some d => rw [← creditKey_of_change change, same]
      refine ⟨w, ⟨here, its⟩, ?_⟩
      rintro x ⟨there, also⟩
      exact List.inj_on_of_nodup_map keys there here
        ((creditKey_of_change also).trans (creditKey_of_change its).symm)
    · obtain ⟨w, here, same⟩ := every v member
      rw [creditKey_of_none unchanged] at same
      cases change : w.change with
      | none =>
        rw [creditKey_of_none change] at same
        have named : w.fingerprint = v.fingerprint := congrArg Prod.snd same
        exact distinct w (among here) v member named ▸ here
      | some d =>
        rw [creditKey_of_change change] at same
        exact absurd (change.trans (congrArg some same)) (apart v member w (among here) unchanged)

theorem mem_verifyAllResolved :
    v ∈ verifyAllResolved site rows traffic now ↔ v ∈ verdicts site rows traffic now :=
  (ranked_perm _ _).mem_iff

theorem oneEach (site : Site) (rows : FindingTable) (traffic : Traffic) (now : Moment) :
    OneEach (verdicts site rows traffic now) (tally site rows traffic now).2 := by
  rw [(tallied site rows traffic now).credited]
  refine ⟨fun a hasA b hasB same => eq_of_fingerprint hasA hasB same, fun v stored => ?_,
    nodup_importAll List.nodup_nil, fun v member => ?_⟩
  · obtain ⟨⟨⟩⟩ | member := mem_of_mem_importAll stored
    exact mem_verifyAllResolved.mp member
  · exact key_mem_importAll (mem_verifyAllResolved.mpr member)

theorem predicted_verdicts (distinct : (rows.map StoredFinding.fingerprint).Nodup) :
    ((verdicts site rows traffic now).map fun v => rows.predicted v.fingerprint) =
      rows.measured.map StoredFinding.predicted := by
  have each : ∀ table : FindingTable, table ⊆ rows.measured →
      ((table.filterMap fun row => rollupVerdict site rows traffic now row.fingerprint).map
        fun v => rows.predicted v.fingerprint) = table.map StoredFinding.predicted := by
    intro table within
    induction table with
    | nil => rfl
    | cons row table inductionHypothesis =>
      have member := within (.head _)
      obtain ⟨v, found⟩ :=
        rollupVerdict_of_mem site traffic now distinct (List.mem_of_mem_filter member)
      have rest := inductionHypothesis fun row here => within (.tail _ here)
      rw [List.filterMap_cons, found, List.map_cons, List.map_cons, rest,
        fingerprint_of_rollupVerdict found, predicted_of_mem distinct member]
  exact each rows.measured fun _ member => member

theorem conserved (distinct : (rows.map StoredFinding.fingerprint).Nodup) :
    (tally site rows traffic now).1.creditedPredicted +
      (tally site rows traffic now).1.sharedPredicted =
        (rows.measured.map StoredFinding.predicted).sum := by
  have sorted : (verifyAllResolved site rows traffic now).Perm (verdicts site rows traffic now) :=
    ranked_perm _ _
  rw [(tallied site rows traffic now).conserved, (sorted.map _).sum_eq, predicted_verdicts distinct]

/-! ## Ties -/

theorem savings_eq {a b : RollupVerdict} {all : List RollupVerdict} (hasA : a ∈ all) (hasB : b ∈ all)
    (same : a.creditKey = b.creditKey)
    (leads : IsLeader RollupVerdict.creditKey RollupVerdict.savings all a)
    (leads' : IsLeader RollupVerdict.creditKey RollupVerdict.savings all b) : a.savings = b.savings :=
  le_antisymm (leads' a hasA same) (leads b hasB same.symm)

theorem worth_eq_iff {predicted : Str → ℚ} {a b : RollupVerdict} (same : a.savings = b.savings) :
    worth predicted a = worth predicted b ↔
      (a.verdict.status, predicted a.fingerprint) = (b.verdict.status, predicted b.fingerprint) := by
  constructor
  · intro worths
    have amounts : predicted a.fingerprint = predicted b.fingerprint := congrArg Prod.fst worths
    have counts := congrFun (congrArg (fun w => w.2.2.2) worths) a.verdict.status
    simp only [worth, if_true] at counts
    split at counts
    · next status => exact Prod.ext status.symm amounts
    · cases counts
  · intro agree
    obtain ⟨status, amounts⟩ := Prod.mk.inj agree
    rw [worth, worth, status, amounts, same]

theorem tiesAgree_iff {predicted : Str → ℚ} {all : List RollupVerdict} :
    TiesAgree predicted all ↔
      LeadersAgree RollupVerdict.creditKey RollupVerdict.savings (worth predicted) all := by
  constructor
  · intro agree a hasA b hasB same leads leads'
    exact (worth_eq_iff (savings_eq hasA hasB same leads leads')).mpr
      (agree a hasA b hasB same leads leads')
  · intro agree a hasA b hasB same leads leads'
    exact (worth_eq_iff (savings_eq hasA hasB same leads leads')).mp
      (agree a hasA b hasB same leads leads')

theorem SavingsSums.eq_of_credited {a b : SavingsSums} (credited : a.credited = b.credited)
    (sharedPredicted : a.sharedPredicted = b.sharedPredicted) (shared : a.shared = b.shared) :
    a = b := by
  cases a
  cases b
  simp only [SavingsSums.credited, Prod.mk.injEq] at credited
  simp only [SavingsSums.mk.injEq]
  exact ⟨credited.1, sharedPredicted, credited.2.1, credited.2.2.1, credited.2.2.2, shared⟩

theorem credited_tally (site : Site) (rows : FindingTable) (traffic : Traffic) (now : Moment) :
    (tally site rows traffic now).1.credited =
      ((credited RollupVerdict.creditKey RollupVerdict.savings (verdicts site rows traffic now)).map
        (worth rows.predicted)).sum := by
  rw [(tallied site rows traffic now).sums, (tallied site rows traffic now).credited]
  rfl

theorem tally_perm (perm : other.Perm rows)
    (distinct : (rows.map StoredFinding.fingerprint).Nodup)
    (agree : TiesAgree rows.predicted (verdicts site rows traffic now)) :
    (tally site other traffic now).1 = (tally site rows traffic now).1 := by
  have shuffled : (verdicts site other traffic now).Perm (verdicts site rows traffic now) := by
    rw [verdicts_perm perm distinct]
    exact (perm.filter _).filterMap _
  have distinct' := (perm.map StoredFinding.fingerprint).nodup_iff.mpr distinct
  have same : (tally site other traffic now).1.credited =
      (tally site rows traffic now).1.credited := by
    rw [credited_tally, credited_tally, predicted_perm perm distinct]
    exact (tiesAgree_iff.mp agree).sum_credited shuffled
  refine SavingsSums.eq_of_credited same ?_ ?_
  · have amounts : (tally site other traffic now).1.creditedPredicted =
        (tally site rows traffic now).1.creditedPredicted := congrArg Prod.fst same
    have measured : (other.measured.map StoredFinding.predicted).sum =
        (rows.measured.map StoredFinding.predicted).sum := ((perm.filter _).map _).sum_eq
    rw [← @conserved site rows traffic now distinct, ← @conserved site other traffic now distinct',
      amounts] at measured
    exact add_left_cancel measured
  · -- as many are credited
    have ones : LeadersAgree RollupVerdict.creditKey RollupVerdict.savings (fun _ => 1)
        (verdicts site rows traffic now) := fun _ _ _ _ _ _ _ => rfl
    have length : ∀ all : List RollupVerdict, (all.map fun _ => 1).sum = all.length := by simp
    have lengths := ones.sum_credited shuffled
    rw [length, length] at lengths
    have shared := (tallied site rows traffic now).shared
    have shared' := (tallied site other traffic now).shared
    have all : (verifyAllResolved site other traffic now).length =
        (verifyAllResolved site rows traffic now).length :=
      ((ranked_perm _ _).trans (shuffled.trans (ranked_perm _ _).symm)).length_eq
    rw [(tallied site rows traffic now).credited] at shared
    rw [(tallied site other traffic now).credited, all, ← shared] at shared'
    have credited : (importAll RollupVerdict.creditKey []
        (verifyAllResolved site other traffic now)).length =
          (importAll RollupVerdict.creditKey [] (verifyAllResolved site rows traffic now)).length :=
      lengths
    omega

theorem exists_perm_cons_cons {row row' : StoredFinding} (member : row ∈ rows) (member' : row' ∈ rows)
    (apart : row ≠ row') : ∃ rest, (row :: row' :: rest).Perm rows := by
  obtain ⟨front, back, rfl⟩ := List.append_of_mem member
  have left : row' ∈ front ++ back := by
    have either := List.mem_append.mp member'
    rw [List.mem_append]
    exact either.imp_right fun later => (List.mem_cons.mp later).resolve_left apart.symm
  obtain ⟨front', back', split⟩ := List.append_of_mem left
  refine ⟨front' ++ back', List.Perm.trans (.cons row ?_) List.perm_middle.symm⟩
  rw [split]
  exact List.perm_middle.symm

/-- Where no order of the rows makes a difference, two leaders of a key are worth the same. -/
theorem tiesAgree_of_unordered (distinct : (rows.map StoredFinding.fingerprint).Nodup)
    (unordered : ∀ other, other.Perm rows →
      (tally site other traffic now).1 = (tally site rows traffic now).1) :
    TiesAgree rows.predicted (verdicts site rows traffic now) := by
  rw [tiesAgree_iff]
  intro a hasA b hasB same leads leads'
  by_cases equal : a = b
  · rw [equal]
  obtain ⟨row, member, found⟩ := List.mem_filterMap.mp hasA
  obtain ⟨row', member', found'⟩ := List.mem_filterMap.mp hasB
  have apart : row ≠ row' := by
    rintro rfl
    rw [found] at found'
    exact equal (Option.some.inj found')
  obtain ⟨rest, perm⟩ := exists_perm_cons_cons (List.mem_of_mem_filter member)
    (List.mem_of_mem_filter member') apart
  have perm' : (row' :: row :: rest).Perm rows := (List.Perm.swap row row' rest).trans perm
  -- the verdicts of both orders begin with the two
  have begins : ∀ {x y : StoredFinding} {c d : RollupVerdict}, x ∈ rows.measured → y ∈ rows.measured →
      rollupVerdict site rows traffic now x.fingerprint = some c →
      rollupVerdict site rows traffic now y.fingerprint = some d → (x :: y :: rest).Perm rows →
      verdicts site (x :: y :: rest) traffic now = c :: d :: (FindingTable.measured rest).filterMap
        fun row => rollupVerdict site rows traffic now row.fingerprint := by
    intro x y c d hasX hasY its its' perm
    have hasX : x.baselineRequests.isSome = true := (List.mem_filter.mp hasX).2
    have hasY : y.baselineRequests.isSome = true := (List.mem_filter.mp hasY).2
    rw [verdicts_perm perm distinct, FindingTable.measured, List.filter_cons, if_pos hasX,
      List.filter_cons, if_pos hasY, List.filterMap_cons, its, List.filterMap_cons, its']
    rfl
  have first := begins member member' found found' perm
  have second := begins member' member found' found perm'
  have shuffled : (verdicts site (row :: row' :: rest) traffic now).Perm
      (verdicts site rows traffic now) := by
    rw [verdicts_perm perm distinct]
    exact (perm.filter _).filterMap _
  have sums := congrArg SavingsSums.credited ((unordered _ perm).trans (unordered _ perm').symm)
  rw [credited_tally, credited_tally, predicted_perm perm distinct, predicted_perm perm' distinct,
    first, second] at sums
  rw [first] at shuffled
  exact count_eq_of_sum_credited same (leads.perm shuffled.symm) (leads'.perm shuffled.symm) sums

end

/-- Credit is given once each and whatever the order if and only if no change `finding` has the
    fingerprint of a finding without a change as its cohort, and the findings of the greatest savings
    of a credit key have one status and one prediction. -/
theorem savings_sound_iff (site : Site) (s : FindingSet) (traffic : Traffic) (now : Moment) :
    SavingsSound site s traffic now ↔
      ReferencesApart (verdicts site s.rows traffic now) ∧
        TiesAgree s.rows.predicted (verdicts site s.rows traffic now) := by
  have once_iff := (oneEach site s.rows traffic now).creditedOnce_iff
  constructor
  · rintro ⟨once, -, unordered⟩
    refine ⟨once_iff.mp once, tiesAgree_of_unordered s.distinct fun other perm => ?_⟩
    have distinct := (perm.map StoredFinding.fingerprint).nodup_iff.mpr s.distinct
    exact (unordered ⟨other, distinct⟩ perm).1
  · rintro ⟨apart, agree⟩
    refine ⟨once_iff.mpr apart, conserved s.distinct, fun other perm => ?_⟩
    have sums := tally_perm perm s.distinct agree
    refine ⟨sums, ?_⟩
    have outstanding : other.rows.outstanding.Perm s.rows.outstanding := perm.filter _
    rw [savingsRollup, savingsRollup, sums, (outstanding.map _).sum_eq, outstanding.length_eq]

/-! ## Two findings of one change -/

def localSite : Site := ⟨.sqlite, fun _ => []⟩

/-- A finding that was resolved so many days after the first day, with what it refers to. -/
def resolvedFinding (fingerprint : Str) (verification : Fields) (day wasteUsd : Int) :
    StoredFinding where
  fingerprint := fingerprint
  detector := "context_bloat"
  subjectType := "workflow"
  subjectKey := "w"
  severity := "high"
  title := []
  description := []
  estimatedWasteUsd := wasteUsd
  affectedCount := 1
  evidence := [("verification", .obj verification)]
  status := .resolved
  firstSeenAt := ⟨0, 0⟩
  lastSeenAt := ⟨0, 0⟩
  resolvedAt := some (Moment.addDays ⟨0, 0⟩ day)
  baselineWasteUsd := some wasteUsd
  baselineRequests := some 100
  baselineWindowDays := some 7

def ofChange (reference cohort : Str) : Fields :=
  [("cohort_key", .str cohort), ("change_reference", .str reference)]

/-- One is still pending on the thirtieth day, the other has had no traffic. -/
def pendingFinding : StoredFinding := resolvedFinding "f1" (ofChange "pr-1" "workflow:w") 29 7

def silentFinding : StoredFinding := resolvedFinding "f2" (ofChange "pr-1" "workflow:w") 1 14

def thirtiethDay : Moment := Moment.addDays ⟨0, 0⟩ 30

def verifyingOf (rows : FindingTable) : ℚ :=
  (savingsRollup localSite rows ⟨[], []⟩ thirtiethDay).verifyingPredictedMonthlyUsd

/-- The order of the rows decides which prediction is credited, and of two findings one is credited
    where the change of the other is called `finding`. -/
theorem credit_depends_on_order :
    verifyingOf [pendingFinding, silentFinding] = 30 ∧
      verifyingOf [silentFinding, pendingFinding] = 0 ∧
      ((tally localSite [resolvedFinding "f1" [] 29 7,
        resolvedFinding "f2" (ofChange "finding" "f1") 29 7] ⟨[], []⟩ thirtiethDay).2.map
          RollupVerdict.fingerprint) = ["f1".toList] := by
  refine ⟨by decide +kernel, by decide +kernel, by decide +kernel⟩

end BurnLens.Findings
