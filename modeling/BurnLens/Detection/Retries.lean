import BurnLens.Economics.Workflow
import BurnLens.Library.Double

/-! # Retries

`get_retry_stats` and the anomaly detector take a request for a retry when a failure of its trace
and model is stored before it, and their difference by `julianday` is within the window: the order
is that of the rows, and nothing bounds the difference from below.
-/

namespace BurnLens.Detection

open Library Storage Economics

/-! ## Requests -/

/-- A row of `requests`. -/
structure RequestRow where
  id : Int
  timestamp : DateTime
  model : Str
  statusCode : Int := 200
  costUsd : ℚ := 0
  traceId : Option Str := none
  commitSha : Option Str := none
  tags : List (Str × Str) := []

/-- `julianday`: milliseconds, then a double. -/
def julianday (clock : JulianClock) (time : DateTime) : Option ℚ :=
  (clock.julianMillis time).map fun millis : Int =>
    toDouble (((millis : ℚ) + 210866760000000) / 86400000)

/-- `(julianday(r.timestamp) - julianday(p.timestamp)) * 86400.0 <= ?`. -/
def withinJulian (clock : JulianClock) (windowSeconds : Int) (time failed : DateTime) : Bool :=
  match julianday clock time, julianday clock failed with
  | some later, some earlier => toDouble (toDouble (later - earlier) * 86400) ≤ windowSeconds
  | _, _ => false

namespace RequestRow

/-- `json_extract(tags, '$.tag')`. -/
def tag (r : RequestRow) (tag : Str) : Option Str := r.tags.lookup tag

/-- A failure in the trace of a request and for its model. -/
def FailureOf (p r : RequestRow) : Prop :=
  p.traceId.isSome ∧ p.traceId = r.traceId ∧ p.model = r.model ∧ 400 ≤ p.statusCode

def StoredBefore (clock : JulianClock) (windowSeconds : Int) (p r : RequestRow) : Prop :=
  p.id < r.id ∧ withinJulian clock windowSeconds r.timestamp p.timestamp = true

def HappenedBefore (p r : RequestRow) : Prop :=
  p.timestamp.instant < r.timestamp.instant ∨
    p.timestamp.instant = r.timestamp.instant ∧ p.id < r.id

def HappenedWithin (windowSeconds : Int) (p r : RequestRow) : Prop :=
  p.HappenedBefore r ∧ r.timestamp.instant - p.timestamp.instant ≤ windowSeconds * 1000000

instance (p r : RequestRow) : Decidable (p.FailureOf r) := inferInstanceAs (Decidable (_ ∧ _))

instance (clock : JulianClock) (windowSeconds : Int) (p r : RequestRow) :
    Decidable (p.StoredBefore clock windowSeconds r) :=
  inferInstanceAs (Decidable (_ ∧ _))

instance (p r : RequestRow) : Decidable (p.HappenedBefore r) := inferInstanceAs (Decidable (_ ∨ _))

instance (windowSeconds : Int) (p r : RequestRow) : Decidable (p.HappenedWithin windowSeconds r) :=
  inferInstanceAs (Decidable (_ ∧ _))

end RequestRow

section Queries

variable (clock : JulianClock) (ledger : List RequestRow) (windowSeconds : Int)

/-- The `EXISTS` of both queries. -/
def retryExists (r : RequestRow) : Bool :=
  ledger.any fun p => p.FailureOf r ∧ p.StoredBefore clock windowSeconds r

/-- The rows that `get_retry_stats` counts. -/
def countedRetries (since : Str) : List RequestRow :=
  ledger.filter fun r =>
    r.traceId.isSome && !decide (r.timestamp.isoformat < since) &&
      retryExists clock ledger windowSeconds r

structure RetryStats where
  retryCount : Nat
  retryCostUsd : ℚ

def getRetryStats (since : Str) : RetryStats where
  retryCount := (countedRetries clock ledger windowSeconds since).length
  retryCostUsd := ((countedRetries clock ledger windowSeconds since).map RequestRow.costUsd).sum

structure AgentRequest where
  timestamp : DateTime
  costUsd : ℚ
  traceId : Option Str
  commitSha : Option Str
  isRetry : Bool

def RequestRow.fetched (r : RequestRow) (isRetry : Bool) : AgentRequest where
  timestamp := r.timestamp
  costUsd := r.costUsd
  traceId := r.traceId
  commitSha := r.commitSha.or (r.tag "commit_sha")
  isRetry

/-- The rows of `_fetch_agent_requests`, in the order of their texts. -/
def agentRows (agentId : Str) (since : DateTime) : List RequestRow :=
  (ledger.filter fun r =>
    textLe since r.timestamp && r.tag "agent_id" = some agentId).mergeSort
      fun a b => textLe a.timestamp b.timestamp

def fetchAgentRequests (agentId : Str) (since : DateTime) : List AgentRequest :=
  (agentRows ledger agentId since).map fun r => r.fetched (retryExists clock ledger windowSeconds r)

/-- Another request of the trace, for the same model, failed within the window before. -/
def Retried (r : RequestRow) : Prop :=
  ∃ p ∈ ledger, p.FailureOf r ∧ p.HappenedWithin windowSeconds r

instance (r : RequestRow) : Decidable (Retried ledger windowSeconds r) :=
  inferInstanceAs (Decidable (∃ p ∈ ledger, _))

def retriesSince (since : Str) : List RequestRow :=
  ledger.filter fun r =>
    !decide (r.timestamp.isoformat < since) && decide (Retried ledger windowSeconds r)

structure RetriesMatch : Prop where
  counted : ∀ since,
    countedRetries clock ledger windowSeconds since = retriesSince ledger windowSeconds since
  stats : ∀ since, getRetryStats clock ledger windowSeconds since =
    ⟨(retriesSince ledger windowSeconds since).length,
      ((retriesSince ledger windowSeconds since).map RequestRow.costUsd).sum⟩
  flagged : ∀ agentId since, fetchAgentRequests clock ledger windowSeconds agentId since =
    (agentRows ledger agentId since).map fun r => r.fetched (decide (Retried ledger windowSeconds r))
  -- both flag the same requests
  agree : ∀ agentId since, ∃ isRetry : RequestRow → Bool,
    fetchAgentRequests clock ledger windowSeconds agentId since =
      ((agentRows ledger agentId since).map fun r => r.fetched (isRetry r)) ∧
    ∀ r ∈ agentRows ledger agentId since,
      isRetry r = true ↔ r ∈ countedRetries clock ledger windowSeconds since.isoformat

/-- A failure has the smaller id, and is in the window by `julianday`, just where it happened first
and in the window. -/
def StoredInOrder : Prop :=
  ∀ r ∈ ledger, ∀ p ∈ ledger, p.FailureOf r →
    (p.StoredBefore clock windowSeconds r ↔ p.HappenedWithin windowSeconds r)

end Queries

/-! ## The definition and the queries -/

variable {clock : JulianClock} {ledger : List RequestRow} {windowSeconds : Int} {r : RequestRow}

theorem retryExists_iff : retryExists clock ledger windowSeconds r = true ↔
    ∃ p ∈ ledger, p.FailureOf r ∧ p.StoredBefore clock windowSeconds r := by
  simp [retryExists]

theorem traced_of_retryExists (found : retryExists clock ledger windowSeconds r = true) :
    r.traceId.isSome = true := by
  obtain ⟨p, -, ⟨traced, same, -⟩, -⟩ := retryExists_iff.mp found
  rw [← same]
  exact traced

theorem mem_of_mem_agentRows {agentId : Str} {since : DateTime}
    (fetched : r ∈ agentRows ledger agentId since) : r ∈ ledger ∧ textLe since r.timestamp = true := by
  obtain ⟨member, selected⟩ := List.mem_filter.mp (List.mem_mergeSort.mp fetched)
  exact ⟨member, (Bool.and_eq_true_iff.mp selected).1⟩

theorem mem_countedRetries {agentId : Str} {since : DateTime}
    (fetched : r ∈ agentRows ledger agentId since) : retryExists clock ledger windowSeconds r = true ↔
      r ∈ countedRetries clock ledger windowSeconds since.isoformat := by
  obtain ⟨member, recent⟩ := mem_of_mem_agentRows fetched
  rw [textLe] at recent
  rw [countedRetries, List.mem_filter, recent, Bool.and_true, Bool.and_eq_true_iff]
  exact ⟨fun found => ⟨member, traced_of_retryExists found, found⟩, fun counted => counted.2.2⟩

/-- The queries are right where what they compare decides each request as it happened. -/
theorem retriesMatch_iff : RetriesMatch clock ledger windowSeconds ↔
    ∀ r ∈ ledger, retryExists clock ledger windowSeconds r = true ↔
      Retried ledger windowSeconds r := by
  constructor
  · intro retries r member
    have all : ¬ r.timestamp.isoformat < [] := List.not_lt_nil _
    have its : r ∈ countedRetries clock ledger windowSeconds [] ↔
        Retried ledger windowSeconds r := by
      rw [retries.counted, retriesSince, List.mem_filter]
      simp [member, all]
    rw [← its, countedRetries, List.mem_filter]
    simp only [all, decide_false, Bool.not_false, Bool.and_true, Bool.and_eq_true_iff]
    exact ⟨fun found => ⟨member, traced_of_retryExists found, found⟩, fun counted => counted.2.2⟩
  · intro right
    have same : ∀ r ∈ ledger,
        retryExists clock ledger windowSeconds r = decide (Retried ledger windowSeconds r) :=
      fun r member => Bool.eq_iff_iff.mpr ((right r member).trans decide_eq_true_iff.symm)
    have counted : ∀ since,
        countedRetries clock ledger windowSeconds since = retriesSince ledger windowSeconds since := by
      intro since
      apply List.filter_congr
      intro r member
      rw [← same r member]
      cases found : retryExists clock ledger windowSeconds r with
      | false => simp
      | true => simp [traced_of_retryExists found]
    refine ⟨counted, fun since => ?_, fun agentId since => ?_, fun agentId since => ?_⟩
    · rw [getRetryStats, counted]
    · apply List.map_congr_left
      intro r fetched
      rw [same r (mem_of_mem_agentRows fetched).1]
    · exact ⟨retryExists clock ledger windowSeconds, rfl,
        fun r fetched => mem_countedRetries fetched⟩

theorem StoredInOrder.filter (inOrder : StoredInOrder clock ledger windowSeconds)
    (keep : RequestRow → Bool) : StoredInOrder clock (ledger.filter keep) windowSeconds :=
  fun r member p failed => inOrder r (List.mem_of_mem_filter member) p (List.mem_of_mem_filter failed)

theorem StoredInOrder.retriesMatch (inOrder : StoredInOrder clock ledger windowSeconds) :
    RetriesMatch clock ledger windowSeconds := by
  apply retriesMatch_iff.mpr
  intro r member
  rw [retryExists_iff, Retried]
  apply exists_congr
  intro p
  apply and_congr_right
  intro failed
  exact and_congr_right fun failure => inOrder r member p failed failure

theorem not_storedBefore_self : ¬ r.StoredBefore clock windowSeconds r :=
  fun stored => lt_irrefl _ stored.1

theorem not_happenedWithin_self : ¬ r.HappenedWithin windowSeconds r := by
  rintro ⟨before | ⟨_, smaller⟩, _⟩
  · exact lt_irrefl _ before
  · exact lt_irrefl _ smaller

open scoped Classical in
theorem exists_of_two {A : RequestRow → Prop} {p : RequestRow} (failed : p ∈ ledger)
    (failure : p.FailureOf r) (notSelf : ¬ A r) :
    (∃ q ∈ ledger.filter fun q => decide (q = p ∨ q = r), q.FailureOf r ∧ A q) ↔ A p := by
  constructor
  · rintro ⟨q, member, _, its⟩
    obtain rfl | rfl := of_decide_eq_true (List.mem_filter.mp member).2
    · exact its
    · exact absurd its notSelf
  · intro its
    exact ⟨p, List.mem_filter.mpr ⟨failed, by simp⟩, failure, its⟩

theorem daysBeforeMonth_le (year month : Nat) : daysBeforeMonth year month ≤ 31 * month := by
  fun_induction daysBeforeMonth year month with
  | case1 => omega
  | case2 => omega
  | case3 month _ inductionHypothesis =>
    have days : daysInMonth year month ≤ 31 := by
      simp only [daysInMonth]
      split_ifs <;> omega
    omega

theorem instant_bounds (t : DateTime) :
    -720000 * 86400000000 ≤ t.instant ∧ t.instant ≤ 2942000 * 86400000000 := by
  have year := t.yearRange
  have month := t.monthRange
  have day := t.dayRange
  have days : daysInMonth t.year t.month ≤ 31 := by
    simp only [daysInMonth]
    split_ifs <;> omega
  have before := daysBeforeMonth_le t.year t.month
  have offset := t.offsetRange
  have times := And.intro t.hourRange (And.intro t.minuteRange (And.intro t.secondRange t.microsecondRange))
  simp only [DateTime.instant, DateTime.wallClock, DateTime.wallSeconds, CivilDate.toordinal,
    daysBeforeYear]
  push_cast
  omega

theorem day_error {x : ℚ} (range : 0 ≤ x ∧ x < 2 ^ 23) : |toDouble x - x| ≤ 1 / 2 ^ 31 := by
  have error := toDouble_error (n := 23) (x := x) (by norm_num) (by
    rw [abs_of_nonneg range.1]
    exact_mod_cast range.2)
  norm_num at error ⊢
  exact error

/-- The seconds between two days differ from the exact ones by less than a millisecond. -/
theorem seconds_error {x y : ℚ} (later : 0 ≤ x ∧ x < 2 ^ 23) (earlier : 0 ≤ y ∧ y < 2 ^ 23) :
    |toDouble (toDouble (toDouble x - toDouble y) * 86400) - (x - y) * 86400| < 1 / 1000 := by
  have first := abs_le.mp (day_error later)
  have second := abs_le.mp (day_error earlier)
  generalize toDouble x = a at first ⊢
  generalize toDouble y = b at second ⊢
  have difference : |toDouble (a - b) - (a - b)| ≤ 2 ^ (24 - 54 : ℤ) := by
    apply toDouble_error (by norm_num)
    rw [abs_lt]
    constructor <;> norm_num at * <;> linarith
  have days := abs_le.mp difference
  generalize toDouble (a - b) = d at days ⊢
  have product : |toDouble (d * 86400) - d * 86400| ≤ 2 ^ (42 - 54 : ℤ) := by
    apply toDouble_error (by norm_num)
    rw [abs_lt]
    constructor <;> norm_num at * <;> linarith
  have seconds := abs_le.mp product
  rw [abs_lt]
  constructor <;> norm_num at * <;> linarith

/-- A difference that is not within three milliseconds of the window is decided as it is. -/
theorem withinJulian_iff {windowSeconds : Int} {time failed : DateTime}
    (minutes : time.utcoffset % 60000000 = 0) (minutes' : failed.utcoffset % 60000000 = 0)
    (apart : 3000 < |time.instant - failed.instant - windowSeconds * 1000000|) :
    withinJulian clock windowSeconds time failed = true ↔
      time.instant - failed.instant ≤ windowSeconds * 1000000 := by
  have range := instant_bounds time
  have range' := instant_bounds failed
  have later : julianday clock time =
      some (toDouble (((clock.millis time.instant) + 210866760000000) / 86400000)) := by
    simp only [julianday, JulianClock.julianMillis, minutes, if_true, Option.map_some]
  have earlier : julianday clock failed =
      some (toDouble (((clock.millis failed.instant) + 210866760000000) / 86400000)) := by
    simp only [julianday, JulianClock.julianMillis, minutes', if_true, Option.map_some]
  simp only [withinJulian, later, earlier, decide_eq_true_eq]
  have near := abs_lt.mp (clock.near time.instant)
  have near' := abs_lt.mp (clock.near failed.instant)
  generalize clock.millis time.instant = m at *
  generalize clock.millis failed.instant = k at *
  have dayOf : ∀ n : Int, -720000 * 86400000 - 1 < n → n < 2942000 * 86400000 + 1 →
      0 ≤ ((n : ℚ) + 210866760000000) / 86400000 ∧ ((n : ℚ) + 210866760000000) / 86400000 < 2 ^ 23 := by
    intro n least most
    have least' : (-720000 * 86400000 - 1 : ℚ) < n := by exact_mod_cast least
    have most' : (n : ℚ) < 2942000 * 86400000 + 1 := by exact_mod_cast most
    rw [le_div_iff₀ (by norm_num), div_lt_iff₀ (by norm_num)]
    constructor <;> linarith
  have error := abs_lt.mp (seconds_error (dayOf m (by omega) (by omega)) (dayOf k (by omega) (by omega)))
  generalize toDouble (toDouble (toDouble (((m : ℚ) + 210866760000000) / 86400000) -
    toDouble (((k : ℚ) + 210866760000000) / 86400000)) * 86400) = seconds at *
  have cuts : (-1000 : ℚ) < time.instant - 1000 * m ∧ (time.instant : ℚ) - 1000 * m < 1000 := by
    exact_mod_cast near
  have cuts' : (-1000 : ℚ) < failed.instant - 1000 * k ∧ (failed.instant : ℚ) - 1000 * k < 1000 := by
    exact_mod_cast near'
  have difference : ((m : ℚ) + 210866760000000) / 86400000 - ((k : ℚ) + 210866760000000) / 86400000 =
      (m - k) / 86400000 := by ring
  rw [difference] at error
  obtain above | below := lt_abs.mp apart
  · have above' : (3000 : ℚ) < time.instant - failed.instant - windowSeconds * 1000000 := by
      exact_mod_cast above
    refine iff_of_false (fun within => ?_) (by omega)
    linarith
  · have below' : (3000 : ℚ) < -(time.instant - failed.instant - windowSeconds * 1000000) := by
      exact_mod_cast below
    refine iff_of_true ?_ (by omega)
    linarith

/-- Rows in the order of their instants, none a window apart, are stored in order. -/
theorem storedInOrder_of_apart (order : ∀ r ∈ ledger, ∀ p ∈ ledger, p.FailureOf r →
      (p.id < r.id ↔ p.HappenedBefore r) ∧
      3000 < |r.timestamp.instant - p.timestamp.instant - windowSeconds * 1000000|)
    (minutes : ∀ r ∈ ledger, r.timestamp.utcoffset % 60000000 = 0) :
    StoredInOrder clock ledger windowSeconds := by
  intro r member p failed failure
  obtain ⟨before, apart⟩ := order r member p failed failure
  exact and_congr before (withinJulian_iff (minutes r member) (minutes p failed) apart)

/-! A failure half a minute after a request, which a scan stores later. -/

def earlyMoment (second : Fin 60) : DateTime :=
  { marchMoment.toDateTime with second, secondRange := second.isLt }

def laterFailure : RequestRow where
  id := 1
  timestamp := earlyMoment 30
  model := "gpt-4o"
  statusCode := 500
  traceId := some ("trace-1" : Str)

def lateRequest : RequestRow where
  id := 2
  timestamp := earlyMoment 0
  model := "gpt-4o"
  traceId := some ("trace-1" : Str)

/-- Stored twenty seconds after the failure, the request would be in order. -/
example (clock : JulianClock) :
    StoredInOrder clock [laterFailure, { lateRequest with timestamp := earlyMoment 50 }] 60 :=
  storedInOrder_of_apart (by decide) (by decide)

end BurnLens.Detection
