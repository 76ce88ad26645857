import BurnLens.Alerts.Dispatch
import BurnLens.Library.Double
import Mathlib.Data.Char
import Mathlib.Data.List.Dedup
import Mathlib.Data.List.Lex

/-! # The readers of a daily key cap

`enforce_daily_cap` compares amounts, and `compute_keys_today` and `check_key_budgets` percentages
of doubles.  They agree where a cap is above 0: the gate takes a cap of 0 for one that is reached,
and the two others take it for none.
-/

namespace BurnLens.Alerts

open Library Budget

/-- `SUM(cost_usd)` of amounts in the order of their rows. -/
structure SqlSum where
  sum : List Usd → Usd
  empty : sum [] = 0
  double : ∀ amounts, IsDouble (sum amounts)

structure KeyBudgets extends ApiKeyBudgetsConfig where
  resetTimezone : Str := "UTC"

/-- The tables and the clock; of `api_keys`, the labels. -/
structure KeyDay where
  sum : SqlSum
  resolveTimezone : Str → Zone
  now : Time
  rows : List SpendRow
  registered : List Str

/-- The end of `today_window_utc`: adding a day drops the fold. -/
def Zone.nextMidnight (zone : Zone) (now : Time) : Time :=
  zone.toUtc ((zone.localDay now + 1) * dayMicros, false)

/-- `daily_cap_for`. -/
def KeyBudgets.capFor (budgets : KeyBudgets) (label : Str) : Option Usd :=
  if label = [] then none else budgets.dailyCapFor label

namespace KeyDay

variable (day : KeyDay) (zone : Zone)

def getSpendByKeyLabelToday (label : Str) : Usd :=
  day.sum.sum ((day.rows.filter fun row =>
    row.keyLabel = some label ∧ zone.todayStart day.now ≤ row.timestamp).map fun row => row.costUsd)

def labelsToday : List Str :=
  ((day.rows.filter fun row => zone.todayStart day.now ≤ row.timestamp).filterMap
    SpendRow.keyLabel).dedup

def getAllKeysTodaySpend : List (Str × Usd) :=
  (day.labelsToday zone).map fun label => (label, day.getSpendByKeyLabelToday zone label)

def enforceDailyCap (budgets : KeyBudgets) (label : Option Str) : Option (Usd × Usd × Time) :=
  match label with
  | none => none
  | some label =>
    match budgets.capFor label with
    | none => none
    | some dailyCap =>
      let zone := day.resolveTimezone budgets.resetTimezone
      let spent := day.getSpendByKeyLabelToday zone label
      if dailyCap ≤ spent then some (spent, dailyCap, zone.nextMidnight day.now) else none

end KeyDay

/-! ## The keys of today -/

inductive KeyStatus where
  | ok
  | warning
  | critical
  | noCap
deriving DecidableEq

def keyStatus : Option ℚ → KeyStatus
  | none => .noCap
  | some pct => if 100 ≤ pct then .critical else if 80 ≤ pct then .warning else .ok

structure KeyTodayRow where
  label : Str
  spentUsd : Usd
  dailyCap : Option Usd
  pctUsed : Option ℚ
  status : KeyStatus
  resetTimezone : Str

/-- `spent / cap * 100`, rounded after each operation. -/
def percentOf (spent cap : Usd) : ℚ := toDouble (toDouble (spent / cap) * 100)

def keyTodayRow (budgets : Option KeyBudgets) (tzName label : Str) (spent : Usd) : KeyTodayRow :=
  let cap := budgets.bind fun budgets => budgets.capFor label
  let pct := cap.map fun cap => if 0 < cap then percentOf spent cap else 0
  { label
    spentUsd := toDouble (roundEven 6 spent)
    dailyCap := cap
    pctUsed := pct.map fun pct => toDouble (roundEven 1 pct)
    status := keyStatus pct
    resetTimezone := tzName }

/-- The order of the rows: capped ones by percentage, the others by spend, then by label. -/
def KeyTodayRow.before (a b : KeyTodayRow) : Bool :=
  if a.pctUsed.isSome ≠ b.pctUsed.isSome then a.pctUsed.isSome
  else if a.pctUsed.getD 0 ≠ b.pctUsed.getD 0 then b.pctUsed.getD 0 < a.pctUsed.getD 0
  else if a.spentUsd ≠ b.spentUsd then b.spentUsd < a.spentUsd
  else a.label ≤ b.label

def KeyDay.computeKeysToday (day : KeyDay) (budgets : Option KeyBudgets) : List KeyTodayRow :=
  let tzName := match budgets with
    | some budgets => budgets.resetTimezone
    | none => "UTC"
  let spentToday := day.getAllKeysTodaySpend (day.resolveTimezone tzName)
  let configured := match budgets with
    | some budgets => budgets.keys.map Prod.fst
    | none => []
  let labels := (spentToday.map Prod.fst ++ configured ++
    day.registered.filter fun label => !label.isEmpty).dedup
  (labels.map fun label =>
    keyTodayRow budgets tzName label ((spentToday.lookup label).getD 0)).mergeSort
      KeyTodayRow.before

/-- The body of the loop of `check_key_budgets`, with the rounding of its percentage. -/
def keyAlertRounded (round : ℚ → ℚ) (budgets : ApiKeyBudgetsConfig) (label : Str) (spent : Usd) :
    Option KeyBudgetAlert :=
  match if label = [] then none else budgets.dailyCapFor label with
  | none => none
  | some cap =>
    if cap ≤ 0 then none
    else
      let pct := round (round (spent / cap) * 100)
      match (keyBudgetThresholds.filter fun threshold => threshold ≤ pct).getLast? with
      | none => none
      | some threshold => some ⟨label, spent, cap, pct, threshold,
          if threshold = 100 then .critical else .warning⟩

def KeyDay.checkKeyBudgets (day : KeyDay) (budgets : KeyBudgets) : List KeyBudgetAlert :=
  if budgets.keys.isEmpty && budgets.default.isNone then []
  else
    (day.getAllKeysTodaySpend (day.resolveTimezone budgets.resetTimezone)).filterMap fun entry =>
      keyAlertRounded toDouble budgets.toApiKeyBudgetsConfig entry.1 entry.2

structure KeyReadersAgree (day : KeyDay) (budgets : KeyBudgets) (label : Str) : Prop where
  keysToday : (day.enforceDailyCap budgets (some label)).isSome ↔
    ∃ row ∈ day.computeKeysToday (some budgets), row.label = label ∧ row.status = .critical
  alerts : label ∈ day.labelsToday (day.resolveTimezone budgets.resetTimezone) →
    ((day.enforceDailyCap budgets (some label)).isSome ↔
      ∃ alert ∈ day.checkKeyBudgets budgets, alert.keyLabel = label ∧ alert.severity = .critical)

/-- The caps are doubles. -/
structure KeyBudgets.Doubles (budgets : KeyBudgets) : Prop where
  keys : ∀ entry ∈ budgets.keys, ∀ cap ∈ entry.2, IsDouble cap
  default : ∀ cap ∈ budgets.default, IsDouble cap

/-- A cap is above 0, or not reached by a spend below 0. -/
def KeyBudgets.Enforceable (budgets : KeyBudgets) (label : Str) (spent : Usd) : Prop :=
  ∀ cap, budgets.capFor label = some cap → 0 < cap ∨ spent < cap

/-! ## What each reader reports -/

variable {day : KeyDay} {budgets : KeyBudgets} {zone : Zone} {label : Str} {spent cap : Usd}

theorem KeyBudgets.Doubles.capFor (doubles : budgets.Doubles)
    (applies : budgets.capFor label = some cap) : IsDouble cap := by
  rw [KeyBudgets.capFor] at applies
  split at applies
  · cases applies
  · rw [ApiKeyBudgetsConfig.dailyCapFor] at applies
    split at applies
    · next own found =>
      cases applies
      obtain ⟨front, back, entries, -⟩ := List.lookup_eq_some_iff.mp found
      exact doubles.keys (label, some cap) (by simp [entries]) cap rfl
    · exact doubles.default cap applies

theorem mem_labelsToday (nonzero : day.getSpendByKeyLabelToday zone label ≠ 0) :
    label ∈ day.labelsToday zone := by
  by_contra absent
  apply nonzero
  have none : (day.rows.filter fun row =>
      row.keyLabel = some label ∧ zone.todayStart day.now ≤ row.timestamp) = [] := by
    apply List.filter_eq_nil_iff.mpr
    intro row member its
    obtain ⟨labelled, recent⟩ := of_decide_eq_true its
    apply absent
    rw [KeyDay.labelsToday, List.mem_dedup, List.mem_filterMap]
    exact ⟨row, List.mem_filter.mpr ⟨member, decide_eq_true recent⟩, labelled⟩
  rw [KeyDay.getSpendByKeyLabelToday, none]
  exact day.sum.empty

theorem lookup_getAllKeysTodaySpend :
    ((day.getAllKeysTodaySpend zone).lookup label).getD 0 =
      day.getSpendByKeyLabelToday zone label := by
  rw [KeyDay.getAllKeysTodaySpend, lookup_map_key]
  split
  · rfl
  · next absent =>
    by_contra nonzero
    exact absent (mem_labelsToday (Ne.symm nonzero))

theorem enforceDailyCap_isSome : (day.enforceDailyCap budgets (some label)).isSome ↔
    ∃ cap, budgets.capFor label = some cap ∧
      cap ≤ day.getSpendByKeyLabelToday (day.resolveTimezone budgets.resetTimezone) label := by
  simp only [KeyDay.enforceDailyCap]
  cases budgets.capFor label with
  | none => simp
  | some cap =>
    simp only [Option.some.injEq, exists_eq_left']
    split
    · next reached => simp [reached]
    · next below => simp [below]

theorem keyStatus_critical (pct : ℚ) : keyStatus (some pct) = .critical ↔ 100 ≤ pct := by
  simp only [keyStatus]
  split
  · next reached => simp [reached]
  · next below => split <;> simp [below]

theorem keyTodayRow_critical (tzName : Str) :
    (keyTodayRow (some budgets) tzName label spent).status = .critical ↔
      ∃ cap, budgets.capFor label = some cap ∧ 0 < cap ∧ 100 ≤ percentOf spent cap := by
  simp only [keyTodayRow, Option.bind_some]
  cases budgets.capFor label with
  | none => simp [keyStatus]
  | some cap =>
    rw [Option.map_some, keyStatus_critical]
    simp only [Option.some.injEq, exists_eq_left']
    split
    · next positive => simp [positive]
    · next other =>
      have low : ¬ (100 : ℚ) ≤ 0 := by norm_num
      simp only [low, other, false_and]

theorem last_threshold_iff (pct : ℚ) :
    (keyBudgetThresholds.filter fun threshold => threshold ≤ pct).getLast? = some 100 ↔ 100 ≤ pct := by
  constructor
  · intro last
    have member := List.mem_filter.mp (List.mem_of_getLast? last)
    exact of_decide_eq_true member.2
  · intro reached
    have lower : (50 : ℚ) ≤ pct ∧ (80 : ℚ) ≤ pct := by constructor <;> linarith
    simp [keyBudgetThresholds, reached, lower]

theorem keyAlertRounded_critical :
    (∃ alert, keyAlertRounded toDouble budgets.toApiKeyBudgetsConfig label spent = some alert ∧
        alert.severity = .critical) ↔
      ∃ cap, budgets.capFor label = some cap ∧ 0 < cap ∧ 100 ≤ percentOf spent cap := by
  have applies : (if label = [] then none else budgets.dailyCapFor label) = budgets.capFor label := rfl
  simp only [keyAlertRounded, applies]
  cases budgets.capFor label with
  | none => simp
  | some cap =>
    simp only [Option.some.injEq, exists_eq_left']
    by_cases positive : 0 < cap
    · have pct : toDouble (toDouble (spent / cap) * 100) = percentOf spent cap := rfl
      rw [if_neg (not_le.mpr positive), pct, ← last_threshold_iff]
      simp only [positive, true_and]
      cases (keyBudgetThresholds.filter fun threshold => threshold ≤ percentOf spent cap).getLast? with
      | none => simp
      | some threshold =>
        simp only [Option.some.injEq, exists_eq_left']
        split
        · next its => simp [its]
        · next other => simp [other]
    · simp [positive, not_lt.mp positive]

theorem keyAlertRounded_label {round : ℚ → ℚ} {config : ApiKeyBudgetsConfig} {alert : KeyBudgetAlert}
    (raised : keyAlertRounded round config label spent = some alert) : alert.keyLabel = label := by
  simp only [keyAlertRounded] at raised
  split at raised
  · cases raised
  · split at raised
    · cases raised
    · split at raised
      · cases raised
      · cases raised
        rfl

theorem percentOf_reached (cap_double : IsDouble cap) (positive : 0 < cap) :
    100 ≤ percentOf (day.getSpendByKeyLabelToday zone label) cap ↔
      cap ≤ day.getSpendByKeyLabelToday zone label :=
  percent_reached (day.sum.double _) cap_double positive

/-- What both percentages report is a cap above 0 that is reached. -/
theorem reported_iff (doubles : budgets.Doubles) :
    (∃ cap, budgets.capFor label = some cap ∧ 0 < cap ∧
        100 ≤ percentOf (day.getSpendByKeyLabelToday zone label) cap) ↔
      ∃ cap, budgets.capFor label = some cap ∧ 0 < cap ∧
        cap ≤ day.getSpendByKeyLabelToday zone label := by
  apply exists_congr
  intro cap
  apply and_congr_right
  intro applies
  exact and_congr_right fun positive => percentOf_reached (doubles.capFor applies) positive

theorem mem_labelsToday_of_reached (reached : ∃ cap, budgets.capFor label = some cap ∧ 0 < cap ∧
    cap ≤ day.getSpendByKeyLabelToday zone label) : label ∈ day.labelsToday zone := by
  obtain ⟨cap, -, positive, reached⟩ := reached
  exact mem_labelsToday (positive.trans_le reached).ne'

theorem computeKeysToday_critical (doubles : budgets.Doubles) :
    (∃ row ∈ day.computeKeysToday (some budgets), row.label = label ∧ row.status = .critical) ↔
      ∃ cap, budgets.capFor label = some cap ∧ 0 < cap ∧
        cap ≤ day.getSpendByKeyLabelToday (day.resolveTimezone budgets.resetTimezone) label := by
  simp only [KeyDay.computeKeysToday, List.mem_mergeSort, List.mem_map, List.mem_dedup,
    lookup_getAllKeysTodaySpend]
  constructor
  · rintro ⟨_, ⟨name, -, rfl⟩, rfl, critical⟩
    exact (reported_iff doubles).mp ((keyTodayRow_critical _).mp critical)
  · intro reached
    have traffic := mem_labelsToday_of_reached reached
    refine ⟨_, ⟨label, ?_, rfl⟩, rfl, (keyTodayRow_critical _).mpr ((reported_iff doubles).mpr reached)⟩
    apply List.mem_append_left
    apply List.mem_append_left
    rw [KeyDay.getAllKeysTodaySpend, List.map_map]
    exact List.mem_map.mpr ⟨label, traffic, rfl⟩

theorem checkKeyBudgets_critical (doubles : budgets.Doubles) :
    (∃ alert ∈ day.checkKeyBudgets budgets, alert.keyLabel = label ∧ alert.severity = .critical) ↔
      ∃ cap, budgets.capFor label = some cap ∧ 0 < cap ∧
        cap ≤ day.getSpendByKeyLabelToday (day.resolveTimezone budgets.resetTimezone) label := by
  simp only [KeyDay.checkKeyBudgets]
  split
  · next unset =>
    obtain ⟨empty, default⟩ := Bool.and_eq_true_iff.mp unset
    have uncapped : budgets.capFor label = none := by
      rw [KeyBudgets.capFor, ApiKeyBudgetsConfig.dailyCapFor, List.isEmpty_iff.mp empty,
        Option.isNone_iff_eq_none.mp default]
      exact ite_self none
    simp [uncapped]
  · simp only [KeyDay.getAllKeysTodaySpend, List.mem_filterMap, List.mem_map]
    rw [← reported_iff doubles, ← keyAlertRounded_critical]
    constructor
    · rintro ⟨alert, ⟨_, ⟨name, -, rfl⟩, raised⟩, about, critical⟩
      obtain rfl : name = label := (keyAlertRounded_label raised).symm.trans about
      exact ⟨alert, raised, critical⟩
    · rintro ⟨alert, raised, critical⟩
      have reached := (reported_iff doubles).mp (keyAlertRounded_critical.mp ⟨alert, raised, critical⟩)
      exact ⟨alert, ⟨_, ⟨label, mem_labelsToday_of_reached reached, rfl⟩, raised⟩,
        keyAlertRounded_label raised, critical⟩

/-- The readers of a key cap agree exactly where the cap is above 0, or absent, or not reached. -/
theorem key_readers_agree (day : KeyDay) (doubles : budgets.Doubles) (label : Str) :
    KeyReadersAgree day budgets label ↔ budgets.Enforceable label
      (day.getSpendByKeyLabelToday (day.resolveTimezone budgets.resetTimezone) label) := by
  constructor
  · intro agree cap applies
    by_contra neither
    obtain ⟨nonpositive, reached⟩ := not_or.mp neither
    have blocked := enforceDailyCap_isSome.mpr ⟨cap, applies, not_lt.mp reached⟩
    obtain ⟨other, same, positive, -⟩ :=
      (computeKeysToday_critical doubles).mp (agree.keysToday.mp blocked)
    rw [applies, Option.some.injEq] at same
    exact nonpositive (same ▸ positive)
  · intro enforceable
    have blocked : (day.enforceDailyCap budgets (some label)).isSome ↔
        ∃ cap, budgets.capFor label = some cap ∧ 0 < cap ∧
          cap ≤ day.getSpendByKeyLabelToday (day.resolveTimezone budgets.resetTimezone) label := by
      rw [enforceDailyCap_isSome]
      apply exists_congr
      intro cap
      apply and_congr_right
      intro applies
      refine ⟨fun reached => ⟨?_, reached⟩, And.right⟩
      exact (enforceable cap applies).resolve_right (not_lt.mpr reached)
    exact ⟨blocked.trans (computeKeysToday_critical doubles).symm,
      fun _ => blocked.trans (checkKeyBudgets_critical doubles).symm⟩

/-! A day in UTC, with one key that has a cap. -/

theorem isDouble_zero : IsDouble 0 := ⟨0, 0, by norm_num, by norm_num, by norm_num⟩

def sumInOrder : SqlSum where
  sum amounts := amounts.foldl (fun total amount => toDouble (total + amount)) 0
  empty := rfl
  double amounts := by
    obtain rfl | ⟨front, last, rfl⟩ := List.eq_nil_or_concat amounts
    · exact isDouble_zero
    · rw [List.concat_eq_append, List.foldl_append]
      exact isDouble_toDouble _

def utcDay (rows : List SpendRow) : KeyDay where
  sum := sumInOrder
  resolveTimezone _ := ⟨fun t => (t, false), Prod.fst⟩
  now := dayMicros
  rows
  registered := ["ci"]

def ciCapped (cap : Int) : KeyBudgets := { keys := [("ci", some (cap : ℚ))] }

theorem ciCapped_doubles {cap : Int} (small : |cap| ≤ 2 ^ 53) : (ciCapped cap).Doubles where
  keys := by
    intro entry member cap its
    cases List.mem_singleton.mp member
    cases its
    exact isDouble_int small
  default := by
    intro cap its
    cases its

theorem key_readers_agree_ci : KeyReadersAgree (utcDay []) (ciCapped 10) "ci" := by
  have doubles : (ciCapped 10).Doubles := ciCapped_doubles (by norm_num)
  apply (key_readers_agree (utcDay []) doubles "ci").mpr
  intro cap applies
  cases applies
  left
  norm_num

/-- A cap of 0 that nothing was spent under: the gate blocks the key, and `keys` calls it fine. -/
theorem zero_cap_blocked : ¬ ∀ (day : KeyDay) (budgets : KeyBudgets) (label : Str),
    budgets.Doubles → KeyReadersAgree day budgets label := by
  intro always
  have doubles : (ciCapped 0).Doubles := ciCapped_doubles (by norm_num)
  have agree := always (utcDay []) (ciCapped 0) "ci" doubles
  have blocked : ((utcDay []).enforceDailyCap (ciCapped 0) (some "ci")).isSome :=
    enforceDailyCap_isSome.mpr ⟨0, rfl, le_of_eq rfl⟩
  obtain ⟨cap, applies, positive, -⟩ :=
    (computeKeysToday_critical doubles).mp (agree.keysToday.mp blocked)
  cases applies
  exact lt_irrefl _ positive

end BurnLens.Alerts
