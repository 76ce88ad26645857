import BurnLens.Storage.Timestamps

/-! # Reading timestamps back

A text that `isoformat` wrote stands for one datetime: `fromisoformat` on the texts that the
tables hold.
-/

namespace BurnLens.Library

def readDigit (c : Char) : Option Nat := if c.isDigit then some (c.toNat - 48) else none

/-- A numeral of the given width at the start of a text, and what follows it. -/
def readNumeral : (width : Nat) → Str → Option (Nat × Str)
  | 0, text => some (0, text)
  | _ + 1, [] => none
  | width + 1, c :: text => do
    let digit ← readDigit c
    let (n, rest) ← readNumeral width text
    return (digit * 10 ^ width + n, rest)

theorem readDigit_digitChar {n : Nat} (small : n < 10) : readDigit (Nat.digitChar n) = some n := by
  have digits : ∀ n : Fin 10, readDigit (Nat.digitChar n) = some n.val := by decide
  exact digits ⟨n, small⟩

@[simp] theorem readNumeral_numeral {width n : Nat} (bounded : n < 10 ^ width) (text : Str) :
    readNumeral width (numeral width n ++ text) = some (n, text) := by
  induction width generalizing n with
  | zero =>
    have zero : n = 0 := by simpa using bounded
    rw [zero]
    rfl
  | succ width inductionHypothesis =>
    rw [Nat.pow_succ] at bounded
    have positive : 0 < 10 ^ width := Nat.pow_pos (by omega)
    have leading : n / 10 ^ width < 10 := Nat.div_lt_of_lt_mul bounded
    have rest := inductionHypothesis (Nat.mod_lt n positive)
    rw [numeral_mod] at rest
    have whole := Nat.div_add_mod n (10 ^ width)
    rw [Nat.mul_comm] at whole
    simp [numeral, readNumeral, Nat.mod_eq_of_lt leading, readDigit_digitChar leading, rest, whole]

end BurnLens.Library

namespace BurnLens.Storage

open Library

def expect (c : Char) : Str → Option Str
  | [] => none
  | d :: text => if d = c then some text else none

/-- The seconds of an offset and their fraction. -/
def readOffsetSeconds : Str → Option Nat
  | [] => some 0
  | text => do
    let (seconds, rest) ← readNumeral 2 (← expect ':' text)
    match rest with
    | [] => return seconds * 1000000
    | rest =>
      let (micros, _) ← readNumeral 6 (← expect '.' rest)
      return seconds * 1000000 + micros

def readOffset : Str → Option Int
  | [] => none
  | sign :: text => do
    let (hours, rest) ← readNumeral 2 text
    let (minutes, rest) ← readNumeral 2 (← expect ':' rest)
    let micros ← readOffsetSeconds rest
    let magnitude : Nat := hours * 3600000000 + minutes * 60000000 + micros
    return if sign = '-' then -(magnitude : Int) else magnitude

/-- The microseconds, if any, and what follows them. -/
def readFraction : Str → Option (Nat × Str)
  | '.' :: text => readNumeral 6 text
  | text => some (0, text)

/-- The datetime with these fields, if there is one. -/
def civil (year month day hour minute second microsecond : Nat) (utcoffset : Int) :
    Option DateTime :=
  if valid : ((1 ≤ year ∧ year ≤ 9999) ∧ (1 ≤ month ∧ month ≤ 12) ∧
      1 ≤ day ∧ day ≤ daysInMonth year month) ∧ hour < 24 ∧ minute < 60 ∧ second < 60 ∧
      microsecond < 1000000 ∧ utcoffset.natAbs < 86400000000 then
    some
      { year, month, day, hour, minute, second, microsecond, utcoffset
        yearRange := valid.1.1
        monthRange := valid.1.2.1
        dayRange := valid.1.2.2
        hourRange := valid.2.1
        minuteRange := valid.2.2.1
        secondRange := valid.2.2.2.1
        microsecondRange := valid.2.2.2.2.1
        offsetRange := valid.2.2.2.2.2 }
  else none

/-- `datetime.fromisoformat`, on what `isoformat` writes of an aware datetime. -/
def readIsoformat (text : Str) : Option DateTime := do
  let (year, text) ← readNumeral 4 text
  let (month, text) ← readNumeral 2 (← expect '-' text)
  let (day, text) ← readNumeral 2 (← expect '-' text)
  let (hour, text) ← readNumeral 2 (← expect 'T' text)
  let (minute, text) ← readNumeral 2 (← expect ':' text)
  let (second, text) ← readNumeral 2 (← expect ':' text)
  let (microsecond, text) ← readFraction text
  let utcoffset ← readOffset text
  civil year month day hour minute second microsecond utcoffset

/-! ## The round trip -/

@[simp] theorem expect_cons (c : Char) (text : Str) : expect c (c :: text) = some text := by
  simp [expect]

theorem readOffsetSeconds_tail {seconds micros : Nat} (s : seconds < 10 ^ 2) (m : micros < 10 ^ 6) :
    readOffsetSeconds (if seconds = 0 ∧ micros = 0 then []
      else ':' :: (numeral 2 seconds ++ if micros = 0 then [] else '.' :: numeral 6 micros)) =
        some (seconds * 1000000 + micros) := by
  have whole := readNumeral_numeral s []
  have fraction := readNumeral_numeral m []
  rw [List.append_nil] at whole fraction
  split
  · next none => simp [readOffsetSeconds, none]
  · split
    · next zero => simp [readOffsetSeconds, whole, zero]
    · simp [readOffsetSeconds, readNumeral_numeral s, fraction]

theorem readOffset_formatOffset {offset : Int} (range : offset.natAbs < 86400000000) :
    readOffset (formatOffset offset) = some offset := by
  have hours : offset.natAbs / 3600000000 < 10 ^ 2 := by omega
  have minutes : offset.natAbs / 60000000 % 60 < 10 ^ 2 := by omega
  have seconds : offset.natAbs / 1000000 % 60 < 10 ^ 2 := by omega
  have micros : offset.natAbs % 1000000 < 10 ^ 6 := by omega
  have sum : offset.natAbs / 3600000000 * 3600000000 + offset.natAbs / 60000000 % 60 * 60000000 +
      (offset.natAbs / 1000000 % 60 * 1000000 + offset.natAbs % 1000000) = offset.natAbs := by
    omega
  simp only [formatOffset, readOffset, readNumeral_numeral hours, readNumeral_numeral minutes,
    expect_cons, readOffsetSeconds_tail seconds micros, Option.bind_eq_bind, Option.bind_some, sum]
  split
  · next west =>
    rw [if_pos rfl]
    exact congrArg some (by omega)
  · next east =>
    rw [if_neg (by decide)]
    exact congrArg some (by omega)

theorem readFraction_suffix (t : DateTime) :
    readFraction t.suffix = some (t.microsecond, formatOffset t.utcoffset) := by
  rw [DateTime.suffix]
  split
  · next zero =>
    rw [zero, List.nil_append, formatOffset]
    split <;> rfl
  · exact readNumeral_numeral t.microsecondRange _

theorem civil_self (t : DateTime) :
    civil t.year t.month t.day t.hour t.minute t.second t.microsecond t.utcoffset = some t :=
  dif_pos ⟨⟨t.yearRange, t.monthRange, t.dayRange⟩, t.hourRange, t.minuteRange, t.secondRange,
    t.microsecondRange, t.offsetRange⟩

theorem reads {α β : Type} {read : Option α} {a : α} {f : α → Option β} (known : read = some a) :
    (read >>= f) = f a := by
  rw [known]
  rfl

/-- What `isoformat` wrote is read back. -/
@[simp] theorem readIsoformat_isoformat (t : DateTime) : readIsoformat t.isoformat = some t := by
  obtain ⟨year, month, day, hour, minute, second⟩ := t.numeralBounds
  apply (reads (readNumeral_numeral year _)).trans
  apply (reads (expect_cons _ _)).trans
  apply (reads (readNumeral_numeral month _)).trans
  apply (reads (expect_cons _ _)).trans
  apply (reads (readNumeral_numeral day _)).trans
  apply (reads (expect_cons _ _)).trans
  apply (reads (readNumeral_numeral hour _)).trans
  apply (reads (expect_cons _ _)).trans
  apply (reads (readNumeral_numeral minute _)).trans
  apply (reads (expect_cons _ _)).trans
  apply (reads (readNumeral_numeral second _)).trans
  apply (reads (readFraction_suffix t)).trans
  apply (reads (readOffset_formatOffset t.offsetRange)).trans
  exact civil_self t

theorem isoformat_inj {a b : DateTime} (same : a.isoformat = b.isoformat) : a = b := by
  have read := readIsoformat_isoformat a
  rw [same, readIsoformat_isoformat] at read
  exact (Option.some.inj read).symm

end BurnLens.Storage
