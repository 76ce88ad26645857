import BurnLens.Config
import BurnLens.Library.Numeral
import Mathlib.Data.List.Basic

/-! # Timestamps in the requests table

A timestamp is stored as the ISO text of the datetime it came with, in whatever UTC offset and
precision that had, and the spend queries compare this text with that of the start of their
window.  The proxy stamps its rows in UTC; the scan importers keep the offset of the log file.
-/

namespace BurnLens.Storage

open Library

/-! ## Dates -/

def isLeap (year : Nat) : Bool := year % 4 = 0 && (year % 100 ≠ 0 || year % 400 = 0)

def daysInMonth (year month : Nat) : Nat :=
  if month = 2 then if isLeap year then 29 else 28
  else if month = 4 ∨ month = 6 ∨ month = 9 ∨ month = 11 then 30
  else 31

/-- `datetime.date`. -/
structure CivilDate where
  year : Nat
  month : Nat
  day : Nat
  yearRange : 1 ≤ year ∧ year ≤ 9999
  monthRange : 1 ≤ month ∧ month ≤ 12
  dayRange : 1 ≤ day ∧ day ≤ daysInMonth year month

def daysBeforeYear (year : Nat) : Nat :=
  (year - 1) * 365 + (year - 1) / 4 - (year - 1) / 100 + (year - 1) / 400

def daysBeforeMonth (year : Nat) : Nat → Nat
  | 0 | 1 => 0
  | month + 1 => daysBeforeMonth year month + daysInMonth year month

namespace CivilDate

def toordinal (date : CivilDate) : Nat :=
  daysBeforeYear date.year + daysBeforeMonth date.year date.month + date.day

def weekday (date : CivilDate) : Nat := (date.toordinal + 6) % 7

def firstOfMonth (date : CivilDate) : CivilDate :=
  { date with day := 1, dayRange := ⟨le_rfl, date.dayRange.1.trans date.dayRange.2⟩ }

theorem daysInMonth_pos (year month : Nat) : 1 ≤ daysInMonth year month := by
  simp only [daysInMonth]
  split_ifs <;> decide

/-- The day before, if there is one: 0001-01-01 stays. -/
def yesterday (date : CivilDate) : CivilDate :=
  if earlierDay : 1 < date.day then
    { date with
      day := date.day - 1
      dayRange := ⟨Nat.le_sub_one_of_lt earlierDay, (Nat.sub_le _ _).trans date.dayRange.2⟩ }
  else if earlierMonth : 1 < date.month then
    { date with
      month := date.month - 1
      day := daysInMonth date.year (date.month - 1)
      monthRange := ⟨Nat.le_sub_one_of_lt earlierMonth, (Nat.sub_le _ _).trans date.monthRange.2⟩
      dayRange := ⟨daysInMonth_pos _ _, le_rfl⟩ }
  else if earlierYear : 1 < date.year then
    { year := date.year - 1, month := 12, day := 31
      yearRange := ⟨Nat.le_sub_one_of_lt earlierYear, (Nat.sub_le _ _).trans date.yearRange.2⟩
      monthRange := by omega
      dayRange := ⟨by decide, le_rfl⟩ }
  else date

/-- The Monday of the week: 0001-01-01 is one. -/
def monday (date : CivilDate) : CivilDate := Nat.iterate yesterday date.weekday date

end CivilDate

/-! ## Datetimes -/

/-- An aware `datetime.datetime`; the offset is in microseconds, positive to the east. -/
structure DateTime extends CivilDate where
  hour : Nat
  minute : Nat
  second : Nat
  microsecond : Nat
  utcoffset : Int
  hourRange : hour < 24
  minuteRange : minute < 60
  secondRange : second < 60
  microsecondRange : microsecond < 1000000
  offsetRange : utcoffset.natAbs < 86400000000

/-- `_format_offset`: seconds and their fraction only where they are not 0. -/
def formatOffset (offset : Int) : Str :=
  let magnitude := offset.natAbs
  let seconds := magnitude / 1000000 % 60
  let micros := magnitude % 1000000
  (if offset < 0 then '-' else '+') ::
    (numeral 2 (magnitude / 3600000000) ++ ':' :: (numeral 2 (magnitude / 60000000 % 60) ++
      if seconds = 0 ∧ micros = 0 then []
      else ':' :: (numeral 2 seconds ++ if micros = 0 then [] else '.' :: numeral 6 micros)))

namespace DateTime

variable (t : DateTime)

def suffix : Str :=
  (if t.microsecond = 0 then [] else '.' :: numeral 6 t.microsecond) ++ formatOffset t.utcoffset

def isoformat : Str :=
  numeral 4 t.year ++ '-' :: (numeral 2 t.month ++ '-' :: (numeral 2 t.day ++ 'T' ::
    (numeral 2 t.hour ++ ':' :: (numeral 2 t.minute ++ ':' :: (numeral 2 t.second ++ t.suffix)))))

def wallSeconds : Int :=
  (t.toordinal - 719163) * 86400 + (t.hour * 3600 + t.minute * 60 + t.second : Nat)

/-- What the wall clock shows, read as if in UTC: microseconds since 1970-01-01. -/
def wallClock : Int := t.wallSeconds * 1000000 + t.microsecond

def instant : Int := t.wallClock - t.utcoffset

end DateTime

/-- `datetime.now(timezone.utc)`. -/
structure UtcDateTime extends DateTime where
  utc : utcoffset = 0

/-- The start of a window: of a month or of a policy's period in UTC, or a local midnight
    brought to UTC from a zone, whose offsets are whole seconds. -/
structure WindowStart extends UtcDateTime where
  whole : microsecond = 0

/-- `now.replace(hour=0, minute=0, second=0, microsecond=0)`, on another day. -/
def UtcDateTime.midnightOf (now : UtcDateTime) (date : CivilDate) : WindowStart :=
  { now with
    toCivilDate := date
    hour := 0, minute := 0, second := 0, microsecond := 0
    hourRange := by omega, minuteRange := by omega, secondRange := by omega
    microsecondRange := by omega
    whole := rfl }

def monthStart (now : UtcDateTime) : WindowStart := now.midnightOf now.firstOfMonth

def periodStart (period : Str) (now : UtcDateTime) : WindowStart :=
  if period = "daily" then now.midnightOf now.toCivilDate
  else if period = "weekly" then now.midnightOf now.monday
  else monthStart now

/-- `_parse_timestamp` of the scan importers.  Which texts `fromisoformat` takes is a matter of
    the Python version; where it raises, the time of the scan is stored. -/
def parseTimestamp (fromisoformat : Str → Option DateTime) (now : UtcDateTime) :
    Option Str → DateTime
  | none | some [] => now.toDateTime
  | some raw =>
    let normalized :=
      if raw.getLast? = some 'Z' then raw.flatMap fun c => if c = 'Z' then "+00:00".toList else [c]
      else raw
    (fromisoformat normalized).getD now.toDateTime

inductive Origin where
  -- the clock of the proxy, or a unix time in the log of Cursor
  | clock (time : UtcDateTime)
  -- the text in a log, scanned at the given time
  | log (raw : Option Str) (now : UtcDateTime)

def Origin.timestamp (fromisoformat : Str → Option DateTime) : Origin → DateTime
  | clock time => time.toDateTime
  | log raw now => parseTimestamp fromisoformat now raw

/-- `timestamp >= ?`. -/
def counted (start : WindowStart) (stored : Str) : Bool := !decide (stored < start.isoformat)

/-! ## The order of dates -/

theorem isLeap_iff {year : Nat} : isLeap year = true ↔ 4 ∣ year ∧ (¬ 100 ∣ year ∨ 400 ∣ year) := by
  simp [isLeap, Nat.dvd_iff_mod_eq_zero]

theorem daysBeforeYear_succ (year : Nat) :
    daysBeforeYear (year + 2) = daysBeforeYear (year + 1) + if isLeap (year + 1) then 366 else 365 := by
  have fourth : year / 100 ≤ year / 4 := Nat.div_le_div_left (by omega) (by omega)
  have century : 100 ∣ year + 1 → 4 ∣ year + 1 := Nat.dvd_trans (by decide)
  have cycle : 400 ∣ year + 1 → 100 ∣ year + 1 := Nat.dvd_trans (by decide)
  simp only [daysBeforeYear, isLeap_iff, Nat.add_sub_cancel, show year + 2 - 1 = year + 1 from rfl,
    Nat.succ_div]
  -- the three quotients grow where the year is a multiple
  by_cases four : 4 ∣ year + 1
  · by_cases hundred : 100 ∣ year + 1
    · by_cases all : 400 ∣ year + 1
      · simp only [four, hundred, all, if_true, not_true, false_or, and_self]
        omega
      · simp only [four, hundred, all, if_true, if_false, not_true, or_self, and_false]
        omega
    · simp only [four, hundred, mt cycle hundred, if_true, if_false, not_false_eq_true, true_or, and_self]
      omega
  · simp only [four, mt century four, mt cycle (mt century four), if_false, false_and]
    omega

theorem daysBeforeYear_lt {year later : Nat} (positive : 1 ≤ year) (ordered : year < later) :
    daysBeforeYear year + (if isLeap year then 366 else 365) ≤ daysBeforeYear later := by
  obtain ⟨year, rfl⟩ := Nat.exists_eq_add_of_le' positive
  induction later, ordered using Nat.le_induction with
  | base => exact (daysBeforeYear_succ year).ge
  | succ later ordered inductionHypothesis =>
    obtain ⟨later, rfl⟩ := Nat.exists_eq_add_of_le' (by omega : 1 ≤ later)
    have grows : daysBeforeYear (later + 1) ≤ daysBeforeYear (later + 1 + 1) :=
      (Nat.le_add_right _ _).trans (daysBeforeYear_succ later).ge
    exact inductionHypothesis.trans grows

theorem daysBeforeMonth_lt {year month later : Nat} (positive : 1 ≤ month) (ordered : month < later) :
    daysBeforeMonth year month + daysInMonth year month ≤ daysBeforeMonth year later := by
  induction later, ordered using Nat.le_induction with
  | base =>
    obtain ⟨month, rfl⟩ := Nat.exists_eq_add_of_le' positive
    exact le_rfl
  | succ later ordered inductionHypothesis =>
    obtain ⟨later, rfl⟩ := Nat.exists_eq_add_of_le' (by omega : 1 ≤ later)
    exact inductionHypothesis.trans (Nat.le_add_right _ _)

theorem daysBeforeMonth_year (year : Nat) :
    daysBeforeMonth year 13 = if isLeap year then 366 else 365 := by
  simp [daysBeforeMonth, daysInMonth]
  split <;> rfl

def CivilDate.Before (a b : CivilDate) : Prop :=
  a.year < b.year ∨ a.year = b.year ∧ (a.month < b.month ∨ a.month = b.month ∧ a.day < b.day)

theorem CivilDate.toordinal_lt {a b : CivilDate} (before : a.Before b) : a.toordinal < b.toordinal := by
  have firstDay := a.dayRange.2
  have otherDay := b.dayRange.1
  simp only [toordinal]
  obtain year | ⟨year, month | ⟨month, day⟩⟩ := before
  · have years := daysBeforeYear_lt a.yearRange.1 year
    -- the whole of `a` lies in its year
    have inYear : daysBeforeMonth a.year a.month + daysInMonth a.year a.month ≤
        daysBeforeMonth a.year 13 :=
      daysBeforeMonth_lt a.monthRange.1 (Nat.lt_succ_of_le a.monthRange.2)
    rw [daysBeforeMonth_year] at inYear
    omega
  · have months : daysBeforeMonth a.year a.month + daysInMonth a.year a.month ≤
        daysBeforeMonth a.year b.month := daysBeforeMonth_lt a.monthRange.1 month
    rw [← year]
    omega
  · rw [← year, ← month]
    omega

namespace DateTime

def Behind (a b : DateTime) : Prop :=
  a.year < b.year ∨ a.year = b.year ∧ (a.month < b.month ∨ a.month = b.month ∧
    (a.day < b.day ∨ a.day = b.day ∧ (a.hour < b.hour ∨ a.hour = b.hour ∧
      (a.minute < b.minute ∨ a.minute = b.minute ∧ a.second < b.second))))

theorem wallSeconds_lt {a b : DateTime} (behind : a.Behind b) : a.wallSeconds < b.wallSeconds := by
  have hour := a.hourRange
  have minute := a.minuteRange
  have second := a.secondRange
  simp only [wallSeconds]
  -- an earlier date outweighs the time of the day
  have earlier : a.toCivilDate.Before b.toCivilDate → a.toordinal + 1 ≤ b.toordinal :=
    CivilDate.toordinal_lt
  obtain year | ⟨year, month | ⟨month, day | ⟨day, later⟩⟩⟩ := behind
  · have dates := earlier (Or.inl year)
    omega
  · have dates := earlier (Or.inr ⟨year, Or.inl month⟩)
    omega
  · have dates := earlier (Or.inr ⟨year, Or.inr ⟨month, day⟩⟩)
    omega
  · have dates : a.toordinal = b.toordinal := by simp only [CivilDate.toordinal, year, month, day]
    omega

def SameSecond (a b : DateTime) : Prop :=
  a.year = b.year ∧ a.month = b.month ∧ a.day = b.day ∧ a.hour = b.hour ∧ a.minute = b.minute ∧
    a.second = b.second

theorem behind_or_same (a b : DateTime) : a.Behind b ∨ b.Behind a ∨ a.SameSecond b := by
  simp only [Behind, SameSecond]
  omega

theorem wallSeconds_eq {a b : DateTime} (same : a.SameSecond b) : a.wallSeconds = b.wallSeconds := by
  obtain ⟨year, month, day, hour, minute, second⟩ := same
  simp only [wallSeconds, CivilDate.toordinal, year, month, day, hour, minute, second]

theorem wallSeconds_lt_iff {a b : DateTime} : a.wallSeconds < b.wallSeconds ↔ a.Behind b := by
  refine ⟨fun less => ?_, wallSeconds_lt⟩
  obtain behind | ahead | same := behind_or_same a b
  · exact behind
  · exact absurd (wallSeconds_lt ahead) less.not_gt
  · exact absurd (wallSeconds_eq same) less.ne

theorem wallSeconds_eq_iff {a b : DateTime} : a.wallSeconds = b.wallSeconds ↔ a.SameSecond b := by
  refine ⟨fun equal => ?_, wallSeconds_eq⟩
  obtain behind | ahead | same := behind_or_same a b
  · exact absurd equal (wallSeconds_lt behind).ne
  · exact absurd equal (wallSeconds_lt ahead).ne'
  · exact same

theorem numeralBounds (t : DateTime) : t.year < 10 ^ 4 ∧ t.month < 10 ^ 2 ∧ t.day < 10 ^ 2 ∧
    t.hour < 10 ^ 2 ∧ t.minute < 10 ^ 2 ∧ t.second < 10 ^ 2 := by
  have year := t.yearRange
  have month := t.monthRange
  have day := t.dayRange
  have hour := t.hourRange
  have minute := t.minuteRange
  have second := t.secondRange
  have longest : daysInMonth t.year t.month ≤ 31 := by
    simp only [daysInMonth]
    split_ifs <;> decide
  omega

/-- The texts are ordered by the seconds of the wall clock, then by what follows them. -/
theorem isoformat_lt_iff {a b : DateTime} : a.isoformat < b.isoformat ↔
    a.wallSeconds < b.wallSeconds ∨ a.wallSeconds = b.wallSeconds ∧ a.suffix < b.suffix := by
  obtain ⟨aYear, aMonth, aDay, aHour, aMinute, aSecond⟩ := a.numeralBounds
  obtain ⟨bYear, bMonth, bDay, bHour, bMinute, bSecond⟩ := b.numeralBounds
  rw [wallSeconds_lt_iff, wallSeconds_eq_iff]
  simp only [isoformat, numeral_append_lt aYear bYear, numeral_append_lt aMonth bMonth,
    numeral_append_lt aDay bDay, numeral_append_lt aHour bHour, numeral_append_lt aMinute bMinute,
    numeral_append_lt aSecond bSecond, List.cons_lt_cons_self, Behind, SameSecond, and_or_left,
    or_assoc, and_assoc]

theorem not_cons_lt_cons {c d : Char} (less : d < c) (s t : Str) : ¬ c :: s < d :: t := by
  rw [List.cons_lt_cons_iff]
  rintro (greater | ⟨same, -⟩)
  · exact less.asymm greater
  · exact less.ne' same

/-- Nothing that follows the seconds sorts before the suffix of a window start. -/
theorem not_suffix_lt (t : DateTime) (start : WindowStart) : ¬ t.suffix < start.suffix := by
  have plain : start.suffix = '+' :: (numeral 2 0 ++ ':' :: (numeral 2 0 ++ [])) := by
    simp only [suffix, start.whole, start.utc, formatOffset, if_true]
    rfl
  rw [plain, suffix]
  split
  · -- without a fraction the offset follows, and '-' comes after '+'
    simp only [List.nil_append, formatOffset]
    split
    · exact not_cons_lt_cons (by decide) _ _
    · have hours : t.utcoffset.natAbs / 3600000000 < 10 ^ 2 := by
        have range := t.offsetRange
        omega
      have minutes : t.utcoffset.natAbs / 60000000 % 60 < 10 ^ 2 := by omega
      rw [List.cons_lt_cons_self, numeral_append_lt hours (by decide), List.cons_lt_cons_self,
        numeral_append_lt minutes (by decide)]
      simp
  · exact not_cons_lt_cons (by decide) _ _

end DateTime

/-! ## Rows in a window -/

/-- A query compares the wall clock of the row with the start of its window. -/
theorem counted_iff (start : WindowStart) (t : DateTime) :
    counted start t.isoformat = true ↔ start.wallClock ≤ t.wallClock := by
  have tie := t.not_suffix_lt start
  have below := t.microsecondRange
  simp only [counted, Bool.not_eq_true', decide_eq_false_iff_not, DateTime.isoformat_lt_iff, tie,
    and_false, or_false, DateTime.wallClock, start.whole]
  omega

/-- The start of the window lies between the row's instant and what its wall clock shows. -/
def Misplaced (start : WindowStart) (t : DateTime) : Prop :=
  (t.instant < start.instant ∧ start.instant ≤ t.wallClock) ∨
    (t.wallClock < start.instant ∧ start.instant ≤ t.instant)

instance (start : WindowStart) (t : DateTime) : Decidable (Misplaced start t) :=
  inferInstanceAs (Decidable (_ ∨ _))

def TextOrderIsTimeOrder (fromisoformat : Str → Option DateTime) (origins : List Origin)
    (start : WindowStart) : Prop :=
  ∀ origin ∈ origins, counted start (origin.timestamp fromisoformat).isoformat = true ↔
    start.instant ≤ (origin.timestamp fromisoformat).instant

theorem counted_iff_instant (start : WindowStart) (t : DateTime) :
    (counted start t.isoformat = true ↔ start.instant ≤ t.instant) ↔ ¬ Misplaced start t := by
  have utc : start.instant = start.wallClock := by rw [DateTime.instant, start.utc, Int.sub_zero]
  rw [counted_iff, ← utc, Misplaced]
  omega

/-- The queries count by time exactly where no window start falls between a row's instant and
    its wall clock. -/
theorem text_order_iff (fromisoformat : Str → Option DateTime) (origins : List Origin)
    (start : WindowStart) :
    TextOrderIsTimeOrder fromisoformat origins start ↔
      ∀ origin ∈ origins, ¬ Misplaced start (origin.timestamp fromisoformat) :=
  forall₂_congr fun _ _ => counted_iff_instant start _

def easternNight : DateTime where
  year := 2026
  month := 3
  day := 1
  yearRange := by omega
  monthRange := by omega
  dayRange := by decide
  hour := 0
  minute := 30
  second := 0
  microsecond := 0
  utcoffset := 7200000000
  hourRange := by omega
  minuteRange := by omega
  secondRange := by omega
  microsecondRange := by omega
  offsetRange := by omega

example : easternNight.isoformat = "2026-03-01T00:30:00+02:00".toList := by decide

def marchMoment : UtcDateTime :=
  { easternNight with utcoffset := 0, offsetRange := by decide, utc := rfl }

/-- The row of a log entry of the last evening of February in UTC counts towards March. -/
theorem eastern_row_counted_early :
    ¬ TextOrderIsTimeOrder (fun raw => if raw = easternNight.isoformat then some easternNight else none)
      [.log (some easternNight.isoformat) marchMoment] (monthStart marchMoment) := by
  intro ordered
  have row := (ordered _ (List.mem_singleton_self _)).mp (by decide)
  exact absurd row (by decide)

end BurnLens.Storage
