import BurnLens.Alerts.KeyCaps
import Mathlib.Data.Int.ConditionallyCompleteOrder
import Mathlib.Data.List.Pairwise
import Mathlib.Order.GaloisConnection.Basic

/-! # The days of a key cap

`today_window_utc` in a zone whose clocks change.  Its windows partition time where the midnights
are lower adjoint to the local day, which fails where a change of the clocks repeats a midnight, or
skips one without taking place at it; the fold that `replace` keeps decides the rest.
-/

namespace BurnLens.Alerts

open Library Budget

section Connection

variable {α : Type*} [LinearOrder α] {start : ℤ → α} {day : α → ℤ} {t s : α}

theorem day_window (connection : GaloisConnection start day) (t : α) :
    start (day t) ≤ t ∧ t < start (day t + 1) := by
  refine ⟨connection.l_u_le t, lt_of_not_ge fun reached => ?_⟩
  have later := (connection _ _).mp reached
  omega

theorem same_day (connection : GaloisConnection start day) (after : start (day t) ≤ s)
    (before : s < start (day t + 1)) : day s = day t := by
  have least := (connection _ _).mp after
  have most : ¬ day t + 1 ≤ day s := fun later => not_le.mpr before ((connection _ _).mpr later)
  omega

end Connection

/-! ## Zones -/

/-- A change of the clocks, from the offset `before` to the offset `after`. -/
structure ClockChange where
  instant : Int
  before : Int
  after : Int

namespace ClockChange

/-- The local time that the change has been reached at: it repeats or skips the ones between. -/
def wall (fold : Bool) (change : ClockChange) : Int :=
  change.instant + if fold then min change.before change.after else max change.before change.after

/-- A time is repeated or skipped by one change only. -/
def Precedes (change later : ClockChange) : Prop :=
  change.instant < later.instant ∧ change.wall false ≤ later.wall true

end ClockChange

def Linked (offset : Int) : List ClockChange → Prop
  | [] => True
  | change :: rest => change.before = offset ∧ Linked change.after rest

structure ZoneInfo where
  base : Int
  changes : List ClockChange
  linked : Linked base changes
  ordered : changes.Pairwise ClockChange.Precedes
  -- "strictly between -timedelta(hours=24) and timedelta(hours=24)"
  bounded : ∀ change ∈ changes, |change.before| < dayMicros ∧ |change.after| < dayMicros

/-- `bisect_right`. -/
def lastReached (key : ClockChange → Int) (time : Int) : List ClockChange → Option ClockChange
  | [] => none
  | change :: rest =>
    if time < key change then none else some ((lastReached key time rest).getD change)

namespace ZoneInfo

variable (zone : ZoneInfo)

/-- `ZoneInfo.fromutc`, with the fold. -/
def fromUtc (time : Int) : Int × Bool :=
  match lastReached ClockChange.instant time zone.changes with
  | none => (time + zone.base, false)
  | some change =>
    (time + change.after, decide (time - change.instant < change.before - change.after))

def utcOffset (fold : Bool) (wallTime : Int) : Int :=
  match lastReached (ClockChange.wall fold) wallTime zone.changes with
  | none => zone.base
  | some change => change.after

def toZone : Zone where
  toLocal := zone.fromUtc
  toUtc time := time.1 - zone.utcOffset time.2 time.1

end ZoneInfo

def Zone.todayWindowUtc (zone : Zone) (now : Time) : Time × Time :=
  (zone.todayStart now, zone.nextMidnight now)

structure DailyWindows (zone : Zone) : Prop where
  contains : ∀ now, (zone.todayWindowUtc now).1 ≤ now ∧ now < (zone.todayWindowUtc now).2
  same : ∀ now other, (zone.todayWindowUtc now).1 ≤ other → other < (zone.todayWindowUtc now).2 →
    zone.todayWindowUtc other = zone.todayWindowUtc now
  next : ∀ now, (zone.todayWindowUtc (zone.todayWindowUtc now).2).1 = (zone.todayWindowUtc now).2
  -- the spend of today is that of the requests of its window
  stored : ∀ (day : KeyDay) (label : Str), (∀ row ∈ day.rows, row.timestamp ≤ day.now) →
    day.getSpendByKeyLabelToday zone label = day.sum.sum ((day.rows.filter fun row =>
      row.keyLabel = some label ∧ zone.todayWindowUtc row.timestamp = zone.todayWindowUtc day.now).map
        fun row => row.costUsd)

/-- A midnight that a change repeats or skips is the one that the change takes place at, on a day
that repeats no time. -/
def ZoneInfo.MidnightsKept (zone : ZoneInfo) : Prop :=
  ∀ change ∈ zone.changes, ∀ day : Int,
    change.wall true ≤ day * dayMicros → day * dayMicros < change.wall false →
      day * dayMicros = change.instant + change.before ∧
      ∀ other ∈ zone.changes, other.after < other.before →
        dayNumber (other.instant + other.after) ≠ day

/-! ## The change that was reached -/

section Reached

variable {key : ClockChange → Int} {base : Int} {changes rest : List ClockChange}
  {change found : ClockChange} {time : Int}

/-- The offset after the changes that are reached. -/
def offsetBy (key : ClockChange → Int) (base : Int) (changes : List ClockChange) (time : Int) : Int :=
  (lastReached key time changes).elim base ClockChange.after

theorem offsetBy_cons : offsetBy key base (change :: rest) time =
    if time < key change then base else offsetBy key change.after rest time := by
  simp only [offsetBy, lastReached]
  split
  · rfl
  · cases lastReached key time rest <;> rfl

theorem lastReached_mem (last : lastReached key time changes = some found) :
    found ∈ changes ∧ key found ≤ time := by
  induction changes with
  | nil => cases last
  | cons change rest inductionHypothesis =>
    simp only [lastReached] at last
    split at last
    · cases last
    · next reached =>
      cases further : lastReached key time rest with
      | none =>
        rw [further] at last
        cases last
        exact ⟨List.mem_cons_self, not_lt.mp reached⟩
      | some other =>
        rw [further] at last
        cases last
        obtain ⟨member, its⟩ := inductionHypothesis further
        exact ⟨List.mem_cons_of_mem _ member, its⟩

theorem lastReached_none (later : ∀ change ∈ changes, time < key change) :
    lastReached key time changes = none := by
  cases found : lastReached key time changes with
  | none => rfl
  | some change =>
    obtain ⟨member, reached⟩ := lastReached_mem found
    exact absurd (later change member) (not_lt.mpr reached)

theorem lastReached_of_mem (ordered : changes.Pairwise ClockChange.Precedes) (member : change ∈ changes)
    (earlier : ∀ other ∈ changes, other.Precedes change → key other ≤ time) (reached : key change ≤ time) :
    ∃ found, lastReached key time changes = some found ∧ (found = change ∨ change.Precedes found) := by
  induction changes with
  | nil => cases member
  | cons head rest inductionHypothesis =>
    obtain ⟨first, ordered⟩ := List.pairwise_cons.mp ordered
    cases member with
    | head =>
      simp only [lastReached, not_lt.mpr reached, if_false]
      cases further : lastReached key time rest with
      | none => exact ⟨change, rfl, Or.inl rfl⟩
      | some found => exact ⟨found, rfl, Or.inr (first found (lastReached_mem further).1)⟩
    | tail _ member =>
      have passed := earlier head List.mem_cons_self (first change member)
      obtain ⟨found, further, its⟩ := inductionHypothesis ordered member
        fun other isOther => earlier other (List.mem_cons_of_mem _ isOther)
      refine ⟨found, ?_, its⟩
      simp only [lastReached, not_lt.mpr passed, if_false, further, Option.getD_some]

theorem lastReached_eq (ordered : changes.Pairwise ClockChange.Precedes) (member : change ∈ changes)
    (earlier : ∀ other ∈ changes, other.Precedes change → key other ≤ time) (reached : key change ≤ time)
    (later : ∀ other ∈ changes, change.Precedes other → time < key other) :
    lastReached key time changes = some change := by
  obtain ⟨found, last, rfl | after⟩ := lastReached_of_mem ordered member earlier reached
  · exact last
  · obtain ⟨isFound, its⟩ := lastReached_mem last
    exact absurd (later found isFound after) (not_lt.mpr its)

theorem offsetBy_before (linked : Linked base changes)
    (ordered : changes.Pairwise ClockChange.Precedes) (member : change ∈ changes)
    (earlier : ∀ other ∈ changes, other.Precedes change → key other ≤ time) (below : time < key change) :
    offsetBy key base changes time = change.before := by
  induction changes generalizing base with
  | nil => cases member
  | cons head rest inductionHypothesis =>
    obtain ⟨first, ordered⟩ := List.pairwise_cons.mp ordered
    rw [offsetBy_cons]
    cases member with
    | head => rw [if_pos below, linked.1]
    | tail _ member =>
      have passed := earlier head List.mem_cons_self (first change member)
      rw [if_neg (not_lt.mpr passed)]
      exact inductionHypothesis linked.2 ordered member
        fun other isOther => earlier other (List.mem_cons_of_mem _ isOther)

theorem precedes_or {other : ClockChange} (ordered : changes.Pairwise ClockChange.Precedes)
    (member : change ∈ changes) (isOther : other ∈ changes) (apart : change ≠ other) :
    change.Precedes other ∨ other.Precedes change := by
  have symmetric : Std.Symm fun a b : ClockChange => a.Precedes b ∨ b.Precedes a :=
    ⟨fun _ _ => Or.symm⟩
  have either : changes.Pairwise fun a b => a.Precedes b ∨ b.Precedes a := ordered.imp Or.inl
  exact either.forall member isOther apart

end Reached

namespace ClockChange

variable {change other : ClockChange}

theorem wall_true (change : ClockChange) :
    change.wall true = change.instant + min change.before change.after := rfl

theorem wall_false (change : ClockChange) :
    change.wall false = change.instant + max change.before change.after := rfl

end ClockChange

/-! ## Midnights -/

section Midnights

variable {base : Int} {changes : List ClockChange} {midnight time : Int}

theorem reached_local {change : ClockChange} (after : ∀ later ∈ changes, change.Precedes later)
    (reached : change.instant ≤ time) :
    change.instant + change.after ≤ time + offsetBy ClockChange.instant change.after changes time := by
  rw [offsetBy]
  cases last : lastReached ClockChange.instant time changes with
  | none => simpa using reached
  | some found =>
    obtain ⟨member, its⟩ := lastReached_mem last
    have apart := (after found member).2
    rw [ClockChange.wall_false, ClockChange.wall_true] at apart
    simp only [Option.elim_some]
    omega

/-- The clocks pass a midnight once: induction on the changes, where a midnight is before a change,
skipped by it, or after it. -/
theorem midnight_le_iff (time : Int) (linked : Linked base changes)
    (ordered : changes.Pairwise ClockChange.Precedes)
    (kept : ∀ change ∈ changes, change.wall true ≤ midnight → midnight < change.wall false →
      midnight = change.instant + change.before) :
    midnight - offsetBy (ClockChange.wall false) base changes midnight ≤ time ↔
      midnight ≤ time + offsetBy ClockChange.instant base changes time := by
  induction changes generalizing base with
  | nil =>
    simp only [offsetBy, lastReached, Option.elim_none]
    omega
  | cons change rest inductionHypothesis =>
    obtain ⟨after, ordered⟩ := List.pairwise_cons.mp ordered
    have tail := inductionHypothesis linked.2 ordered
      fun other member => kept other (List.mem_cons_of_mem _ member)
    have start := linked.1
    have skipped := kept change List.mem_cons_self
    rw [ClockChange.wall_true, ClockChange.wall_false] at skipped
    rw [offsetBy_cons, offsetBy_cons, ClockChange.wall_false]
    by_cases early : midnight < change.instant + max change.before change.after
    · rw [if_pos early]
      by_cases until_change : time < change.instant
      · rw [if_pos until_change]
        omega
      · have past := reached_local after (not_lt.mp until_change)
        rw [if_neg until_change]
        omega
    · rw [if_neg early]
      by_cases until_change : time < change.instant
      · have unreached : offsetBy ClockChange.instant change.after rest time = change.after := by
          rw [offsetBy, lastReached_none fun later member => until_change.trans (after later member).1]
          rfl
        rw [unreached] at tail
        rw [if_pos until_change]
        omega
      · rw [if_neg until_change]
        exact tail

end Midnights

namespace ZoneInfo

variable {zone : ZoneInfo} {day now : Int}

theorem fromUtc_fst (zone : ZoneInfo) (time : Int) :
    (zone.fromUtc time).1 = time + offsetBy ClockChange.instant zone.base zone.changes time := by
  rw [fromUtc, offsetBy]
  cases lastReached ClockChange.instant time zone.changes <;> rfl

theorem utcOffset_eq (zone : ZoneInfo) (fold : Bool) (wallTime : Int) :
    zone.utcOffset fold wallTime = offsetBy (ClockChange.wall fold) zone.base zone.changes wallTime := by
  rw [utcOffset, offsetBy]
  cases lastReached (ClockChange.wall fold) wallTime zone.changes <;> rfl

/-- The instant that a local day begins at. -/
def midnight (zone : ZoneInfo) (fold : Bool) (day : Int) : Int :=
  day * dayMicros - zone.utcOffset fold (day * dayMicros)

theorem todayStart_eq (zone : ZoneInfo) (now : Time) : zone.toZone.todayStart now =
    zone.midnight (zone.fromUtc now).2 (zone.toZone.localDay now) := rfl

theorem nextMidnight_eq (zone : ZoneInfo) (now : Time) :
    zone.toZone.nextMidnight now = zone.midnight false (zone.toZone.localDay now + 1) := rfl

theorem le_dayNumber_iff {time : Int} : day ≤ dayNumber time ↔ day * dayMicros ≤ time :=
  Int.le_ediv_iff_mul_le (by decide)

theorem midnight_connection (kept : zone.MidnightsKept) :
    GaloisConnection (zone.midnight false) zone.toZone.localDay := by
  intro day now
  rw [midnight, utcOffset_eq, Zone.localDay, le_dayNumber_iff]
  have its := midnight_le_iff now zone.linked zone.ordered
    fun change member from_wall to_wall => (kept change member day from_wall to_wall).1
  rw [its, ← fromUtc_fst]
  rfl

theorem offsetBy_fold (base : Int) {changes : List ClockChange} {wallTime : Int}
    (clear : ∀ change ∈ changes, change.wall true ≤ wallTime → change.wall false ≤ wallTime) :
    offsetBy (ClockChange.wall true) base changes wallTime =
      offsetBy (ClockChange.wall false) base changes wallTime := by
  induction changes generalizing base with
  | nil => rfl
  | cons change rest inductionHypothesis =>
    have tail := inductionHypothesis change.after
      fun other member => clear other (List.mem_cons_of_mem _ member)
    have first := clear change List.mem_cons_self
    have ends : change.wall true ≤ change.wall false := by
      rw [ClockChange.wall_true, ClockChange.wall_false]
      omega
    rw [offsetBy_cons, offsetBy_cons, tail]
    by_cases reached : change.wall true ≤ wallTime
    · rw [if_neg (not_lt.mpr reached), if_neg (not_lt.mpr (first reached))]
    · rw [if_pos (not_le.mp reached), if_pos ((not_le.mp reached).trans_le ends)]

theorem fromUtc_folded {time : Int} (folded : (zone.fromUtc time).2 = true) :
    ∃ change ∈ zone.changes, change.instant ≤ time ∧ time < change.instant + change.before - change.after ∧
      (zone.fromUtc time).1 = time + change.after := by
  rw [fromUtc] at folded ⊢
  cases last : lastReached ClockChange.instant time zone.changes with
  | none =>
    rw [last] at folded
    cases folded
  | some change =>
    rw [last] at folded
    obtain ⟨member, reached⟩ := lastReached_mem last
    have recent := of_decide_eq_true folded
    exact ⟨change, member, reached, by omega, rfl⟩

theorem midnight_fold (kept : zone.MidnightsKept) (folded : (zone.fromUtc now).2 = true) :
    zone.midnight true (zone.toZone.localDay now) = zone.midnight false (zone.toZone.localDay now) := by
  obtain ⟨change, member, reached, recent, shown⟩ := fromUtc_folded folded
  have today : zone.toZone.localDay now = dayNumber (now + change.after) := congrArg dayNumber shown
  have began := le_dayNumber_iff.mp (le_refl (dayNumber (now + change.after)))
  -- the midnight is before the times that are repeated
  have clear : dayNumber (now + change.after) * dayMicros < change.instant + change.after := by
    by_contra within
    have its := kept change member (dayNumber (now + change.after))
    rw [ClockChange.wall_true, ClockChange.wall_false] at its
    have skipped := (its (by omega) (by omega)).1
    omega
  have sameDay : dayNumber (change.instant + change.after) = dayNumber (now + change.after) := by
    apply le_antisymm
    · rw [le_dayNumber_iff]
      have first := le_dayNumber_iff.mp (le_refl (dayNumber (change.instant + change.after)))
      omega
    · exact le_dayNumber_iff.mpr clear.le
  rw [midnight, midnight, utcOffset_eq, utcOffset_eq, today, offsetBy_fold]
  intro other isOther from_wall
  by_contra to_wall
  have unfolded := (kept other isOther _ from_wall (not_le.mp to_wall)).2 change member (by omega)
  exact unfolded sameDay

theorem todayStart_eq_midnight (kept : zone.MidnightsKept) (now : Time) :
    zone.toZone.todayStart now = zone.midnight false (zone.toZone.localDay now) := by
  rw [todayStart_eq]
  cases folded : (zone.fromUtc now).2 with
  | false => rfl
  | true => exact midnight_fold kept folded

end ZoneInfo

theorem stored_of_windows {zone : Zone}
    (contains : ∀ now, (zone.todayWindowUtc now).1 ≤ now ∧ now < (zone.todayWindowUtc now).2)
    (same : ∀ now other, (zone.todayWindowUtc now).1 ≤ other → other < (zone.todayWindowUtc now).2 →
      zone.todayWindowUtc other = zone.todayWindowUtc now)
    (day : KeyDay) (label : Str) (past : ∀ row ∈ day.rows, row.timestamp ≤ day.now) :
    day.getSpendByKeyLabelToday zone label = day.sum.sum ((day.rows.filter fun row =>
      row.keyLabel = some label ∧ zone.todayWindowUtc row.timestamp = zone.todayWindowUtc day.now).map
        fun row => row.costUsd) := by
  rw [KeyDay.getSpendByKeyLabelToday]
  congr 2
  apply List.filter_congr
  intro row member
  rw [decide_eq_decide]
  apply and_congr_right
  intro _
  constructor
  · intro counted
    exact same day.now row.timestamp counted ((past row member).trans_lt (contains day.now).2)
  · intro window
    have own := (contains row.timestamp).1
    rw [window] at own
    exact own

theorem daily_windows_of_kept {zone : ZoneInfo} (kept : zone.MidnightsKept) :
    DailyWindows zone.toZone := by
  have connection := ZoneInfo.midnight_connection kept
  have window : ∀ now, zone.toZone.todayWindowUtc now =
      (zone.midnight false (zone.toZone.localDay now), zone.midnight false (zone.toZone.localDay now + 1)) :=
    fun now => Prod.ext (ZoneInfo.todayStart_eq_midnight kept now) rfl
  have contains : ∀ now, (zone.toZone.todayWindowUtc now).1 ≤ now ∧
      now < (zone.toZone.todayWindowUtc now).2 := by
    intro now
    rw [window]
    exact day_window connection now
  have same : ∀ now other, (zone.toZone.todayWindowUtc now).1 ≤ other →
      other < (zone.toZone.todayWindowUtc now).2 →
      zone.toZone.todayWindowUtc other = zone.toZone.todayWindowUtc now := by
    intro now other after before
    rw [window] at after before
    rw [window, window, same_day connection after before]
  refine ⟨contains, same, ?_, stored_of_windows contains same⟩
  intro now
  rw [window, window]
  exact connection.l_u_l_eq_l (zone.toZone.localDay now + 1)

/-! ## What a change does to its midnights -/

namespace ZoneInfo

variable {zone : ZoneInfo} {change other : ClockChange} {day time shown : Int} {fold : Bool}

theorem dayNumber_bounds (time : Int) :
    dayNumber time * dayMicros ≤ time ∧ time < (dayNumber time + 1) * dayMicros := by
  refine ⟨le_dayNumber_iff.mp le_rfl, lt_of_not_ge fun later => ?_⟩
  have next := le_dayNumber_iff.mpr later
  omega

theorem fromUtc_instant (member : change ∈ zone.changes) : zone.fromUtc change.instant =
    (change.instant + change.after, decide (change.after < change.before)) := by
  have last : lastReached ClockChange.instant change.instant zone.changes = some change :=
    lastReached_eq zone.ordered member (fun _ _ precedes => precedes.1.le) le_rfl
      fun _ _ precedes => precedes.1
  rw [fromUtc, last]
  refine Prod.ext rfl (decide_eq_decide.mpr ?_)
  omega

theorem fromUtc_before (member : change ∈ zone.changes) : zone.fromUtc (change.instant - 1) =
    (change.instant - 1 + change.before, (zone.fromUtc (change.instant - 1)).2) := by
  refine Prod.ext ?_ rfl
  rw [fromUtc_fst, offsetBy_before zone.linked zone.ordered member]
  · intro earlier _ precedes
    have strictly := precedes.1
    omega
  · omega

theorem midnight_before (day : Int) (member : change ∈ zone.changes) (from_wall : change.wall true ≤ day * dayMicros)
    (to_wall : day * dayMicros < change.wall false) :
    zone.midnight false day = day * dayMicros - change.before := by
  rw [midnight, utcOffset_eq, offsetBy_before zone.linked zone.ordered member _ to_wall]
  exact fun _ _ precedes => precedes.2.trans from_wall

theorem midnight_after (member : change ∈ zone.changes) (from_wall : change.wall true ≤ day * dayMicros)
    (to_wall : day * dayMicros < change.wall false) :
    zone.midnight true day = day * dayMicros - change.after := by
  have last : lastReached (ClockChange.wall true) (day * dayMicros) zone.changes = some change := by
    apply lastReached_eq zone.ordered member _ from_wall
    · exact fun _ _ precedes => to_wall.trans_le precedes.2
    · intro earlier _ precedes
      have ends : earlier.wall true ≤ earlier.wall false := by
        rw [ClockChange.wall_true, ClockChange.wall_false]
        omega
      exact (ends.trans precedes.2).trans from_wall
  rw [midnight, utcOffset, last]

theorem midnight_past (day : Int) (member : change ∈ zone.changes) (past : change.wall false ≤ day * dayMicros) :
    change.instant ≤ zone.midnight false day ∧
      (change.after < change.before → change.instant < zone.midnight false day) := by
  obtain ⟨found, last, its⟩ : ∃ found,
      lastReached (ClockChange.wall false) (day * dayMicros) zone.changes = some found ∧
        (found = change ∨ change.Precedes found) := by
    apply lastReached_of_mem zone.ordered member _ past
    intro earlier _ precedes
    have ends : change.wall true ≤ change.wall false := by
      rw [ClockChange.wall_true, ClockChange.wall_false]
      omega
    exact (precedes.2.trans ends).trans past
  have reached := (lastReached_mem last).2
  rw [midnight, utcOffset, last]
  rw [ClockChange.wall_false] at past reached
  simp only
  obtain rfl | later := its
  · omega
  · have strictly := later.1
    omega

/-! ## Windows decide the midnights -/

theorem window_eq (reads : zone.fromUtc time = (shown, fold)) : zone.toZone.todayWindowUtc time =
    (zone.midnight fold (dayNumber shown), zone.midnight false (dayNumber shown + 1)) := by
  have today : zone.toZone.localDay time = dayNumber shown := by
    rw [Zone.localDay]
    exact congrArg dayNumber (congrArg Prod.fst reads)
  rw [Zone.todayWindowUtc, todayStart_eq, nextMidnight_eq, today, reads]

section Windows

variable (windows : DailyWindows zone.toZone)

include windows

theorem window_bounds (reads : zone.fromUtc time = (shown, fold)) :
    zone.midnight fold (dayNumber shown) ≤ time ∧ time < zone.midnight false (dayNumber shown + 1) := by
  have bounds := windows.contains time
  rw [window_eq reads] at bounds
  exact bounds

theorem window_start {later shownLater : Int} {foldLater : Bool}
    (reads : zone.fromUtc time = (shown, fold)) (readsLater : zone.fromUtc later = (shownLater, foldLater))
    (after : zone.midnight fold (dayNumber shown) ≤ later)
    (before : later < zone.midnight false (dayNumber shown + 1)) :
    zone.midnight foldLater (dayNumber shownLater) = zone.midnight fold (dayNumber shown) := by
  have same := windows.same time later
  rw [window_eq reads, window_eq readsLater] at same
  exact congrArg Prod.fst (same after before)

/-- A change that repeats a midnight begins a second window of its day, or ends one too early. -/
theorem no_midnight_repeated (member : change ∈ zone.changes) (back : change.after < change.before)
    (from_wall : change.wall true ≤ day * dayMicros) : change.wall false ≤ day * dayMicros := by
  by_contra to_wall
  rw [not_le] at to_wall
  have reads : zone.fromUtc change.instant = (change.instant + change.after, true) := by
    rw [fromUtc_instant member, decide_eq_true back]
  have bounds := window_bounds windows reads
  have today := dayNumber_bounds (change.instant + change.after)
  have walls := ClockChange.wall_true change
  have wallsEnd := ClockChange.wall_false change
  by_cases first : day * dayMicros = change.instant + change.after
  · -- the instant before is in a window that goes on
    have sameDay : dayNumber (change.instant + change.after) = day := by
      rw [dayMicros] at today first
      omega
    have here := midnight_after member from_wall to_wall
    have readsBefore := fromUtc_before member
    have earlier := dayNumber_bounds (change.instant - 1 + change.before)
    have ends := (midnight_past (dayNumber (change.instant - 1 + change.before) + 1) member
      (by omega)).2 back
    have start := window_bounds windows readsBefore
    have joined := window_start windows readsBefore reads (by omega) ends
    rw [sameDay] at joined
    omega
  · -- the next midnight was before
    have next : dayNumber (change.instant + change.after) + 1 ≤ day := by
      rw [dayMicros] at today first from_wall
      omega
    have ends := midnight_before (dayNumber (change.instant + change.after) + 1) member
      (by omega) (by rw [dayMicros] at *; omega)
    rw [dayMicros] at *
    omega

/-- A change that skips a midnight that it does not take place at begins its window too late, or
ends the one before too late. -/
theorem skipped_at_midnight (member : change ∈ zone.changes) (from_wall : change.wall true ≤ day * dayMicros)
    (to_wall : day * dayMicros < change.wall false) :
    day * dayMicros = change.instant + change.before := by
  have walls := ClockChange.wall_true change
  have wallsEnd := ClockChange.wall_false change
  have ahead : change.before < change.after := by
    by_contra notAhead
    obtain same | back := (not_lt.mp notAhead).eq_or_lt
    · omega
    · exact absurd to_wall (not_lt.mpr (no_midnight_repeated windows member back from_wall))
  by_contra elsewhere
  have reads : zone.fromUtc change.instant = (change.instant + change.after, false) := by
    rw [fromUtc_instant member, decide_eq_false (not_lt.mpr ahead.le)]
  have readsBefore := fromUtc_before member
  have today := dayNumber_bounds (change.instant + change.after)
  have earlier := dayNumber_bounds (change.instant - 1 + change.before)
  have bounds := window_bounds windows reads
  have boundsBefore := window_bounds windows readsBefore
  have offsets := zone.bounded change member
  rw [abs_lt, abs_lt] at offsets
  by_cases inside : dayNumber (change.instant + change.after) * dayMicros < change.wall false
  · have start := midnight_before (dayNumber (change.instant + change.after)) member
      (by rw [dayMicros] at *; omega) inside
    rw [dayMicros] at *
    omega
  · -- the clocks end at a midnight, so that more than one day is skipped
    have start := (midnight_past (dayNumber (change.instant + change.after)) member
      (not_lt.mp inside)).1
    have ends := midnight_before (dayNumber (change.instant - 1 + change.before) + 1) member
      (by omega) (by rw [dayMicros] at *; omega)
    have joined : ¬ change.instant < zone.midnight false (dayNumber (change.instant - 1 + change.before) + 1) := by
      intro continues
      have same := window_start windows readsBefore reads (by omega) continues
      omega
    rw [dayMicros] at *
    omega

/-- On a day whose midnight is skipped, a time that is repeated begins a window too early. -/
theorem no_fold_after_skip (member : change ∈ zone.changes) (from_wall : change.wall true ≤ day * dayMicros)
    (to_wall : day * dayMicros < change.wall false) (isOther : other ∈ zone.changes)
    (back : other.after < other.before) : dayNumber (other.instant + other.after) ≠ day := by
  intro sameDay
  have skips := skipped_at_midnight windows member from_wall to_wall
  have wallsEnd := ClockChange.wall_false change
  have otherWalls := ClockChange.wall_true other
  have otherEnd := ClockChange.wall_false other
  have today := dayNumber_bounds (other.instant + other.after)
  rw [sameDay] at today
  have later : change.Precedes other := by
    obtain rfl | apart := eq_or_ne change other
    · omega
    · refine (precedes_or zone.ordered member isOther apart).resolve_right fun precedes => ?_
      have ends := precedes.2
      have walls := ClockChange.wall_true change
      omega
  have readsOther : zone.fromUtc other.instant = (other.instant + other.after, true) := by
    rw [fromUtc_instant isOther, decide_eq_true back]
  have reads : zone.fromUtc change.instant = (change.instant + change.after, false) := by
    rw [fromUtc_instant member, decide_eq_false (by omega)]
  have start := midnight_before day member from_wall to_wall
  have startOther := midnight_after member from_wall to_wall
  have boundsOther := window_bounds windows readsOther
  have changeDay : dayNumber (change.instant + change.after) = day := by
    have its := dayNumber_bounds (change.instant + change.after)
    have ends := later.2
    rw [dayMicros] at *
    omega
  rw [sameDay] at boundsOther
  have strictly := later.1
  have joined := window_start windows readsOther reads
    (by rw [sameDay]; omega) (by rw [sameDay]; omega)
  rw [changeDay, sameDay] at joined
  omega

end Windows

end ZoneInfo

/-- The daily windows partition time exactly where the changes of the clocks keep the midnights. -/
theorem daily_windows_partition (zone : ZoneInfo) : DailyWindows zone.toZone ↔ zone.MidnightsKept := by
  refine ⟨fun windows change member day from_wall to_wall => ⟨?_, ?_⟩, daily_windows_of_kept⟩
  · exact ZoneInfo.skipped_at_midnight windows member from_wall to_wall
  · exact fun other isOther back =>
      ZoneInfo.no_fold_after_skip windows member from_wall to_wall isOther back

/-- Clocks that go back an hour at one in the morning. -/
def azores : ZoneInfo where
  base := 0
  changes := [⟨3600000000, 0, -3600000000⟩]
  linked := ⟨rfl, trivial⟩
  ordered := List.pairwise_singleton _ _
  bounded := by
    intro change member
    cases List.mem_singleton.mp member
    decide

/-- A midnight that comes twice: the spend of its first hour is forgotten in the second one. -/
theorem second_midnight : ¬ ∀ zone : ZoneInfo, DailyWindows zone.toZone := by
  intro always
  have same := (always azores).same 0 3600000000 (by decide) (by decide)
  exact absurd (congrArg Prod.fst same) (by decide)

end BurnLens.Alerts
