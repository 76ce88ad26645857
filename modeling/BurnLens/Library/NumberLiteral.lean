import BurnLens.Library.Text
import Mathlib.Algebra.Order.Field.Basic
import Mathlib.Data.List.TakeWhile
import Mathlib.Data.Rat.Cast.Order

/-! # Number literals

The numbers of a JSON text: a sign, digits without leading zeros, a fraction and an exponent.  A
literal is read back off the front of a text, up to where its digits cannot go on.
-/

namespace BurnLens.Library

structure Digits where
  text : Str
  nonempty : text ≠ []
  decimal : ∀ c ∈ text, c.isDigit = true

/-- Digits that begin with a zero are a single zero. -/
structure Whole extends Digits where
  leading : text.head? = some '0' → text = ['0']

structure Exponent where
  negative : Bool
  digits : Digits

structure NumberLiteral where
  negative : Bool
  whole : Whole
  fraction : Option Digits
  exponent : Option Exponent

def fractionText (fraction : Option Digits) : Str := fraction.elim [] fun digits => '.' :: digits.text

def exponentText (exponent : Option Exponent) : Str :=
  exponent.elim [] fun e => 'e' :: (if e.negative then '-' else '+') :: e.digits.text

def NumberLiteral.text (l : NumberLiteral) : Str :=
  (if l.negative then ['-'] else []) ++
    (l.whole.text ++ (fractionText l.fraction ++ exponentText l.exponent))

def Digits.value (digits : Digits) : Nat := Nat.ofDigitChars 10 digits.text 0

def Exponent.value (e : Exponent) : ℤ :=
  if e.negative then -(e.digits.value : ℤ) else e.digits.value

def NumberLiteral.significand (l : NumberLiteral) : Nat :=
  Nat.ofDigitChars 10 (l.whole.text ++ l.fraction.elim [] Digits.text) 0

/-- The power of ten that they are multiplied by. -/
def NumberLiteral.scale (l : NumberLiteral) : ℤ :=
  l.exponent.elim 0 Exponent.value - l.fraction.elim 0 fun digits => (digits.text.length : ℤ)

def NumberLiteral.magnitude (l : NumberLiteral) : ℚ := l.significand * 10 ^ l.scale

def NumberLiteral.isInteger (l : NumberLiteral) : Bool := l.fraction.isNone && l.exponent.isNone

def NumberLiteral.integer (l : NumberLiteral) : ℤ :=
  if l.negative then -(l.whole.value : ℤ) else l.whole.value

/-! ## Reading -/

def readDigits (s : Str) : Option (Digits × Str) :=
  if some : s.takeWhile Char.isDigit ≠ [] then
    .some (⟨s.takeWhile Char.isDigit, some, fun _ member => List.mem_takeWhile_imp member⟩,
      s.dropWhile Char.isDigit)
  else none

def Whole.zero : Whole := ⟨⟨['0'], by simp, by simp⟩, fun _ => rfl⟩

def readWhole (s : Str) : Option (Whole × Str) :=
  match readDigits s with
  | none => none
  | some (digits, rest) =>
    if zero : digits.text.head? = some '0' then some (.zero, s.drop 1)
    else some (⟨digits, fun head => absurd head zero⟩, rest)

def readFractionPart : Str → Option Digits × Str
  | '.' :: s =>
    match readDigits s with
    | some (digits, rest) => (some digits, rest)
    | none => (none, '.' :: s)
  | s => (none, s)

def readSign : Str → Bool × Str
  | '-' :: s => (true, s)
  | '+' :: s => (false, s)
  | s => (false, s)

def readExponentPart : Str → Option Exponent × Str
  | [] => (none, [])
  | c :: s =>
    if c = 'e' ∨ c = 'E' then
      match readDigits (readSign s).2 with
      | some (digits, rest) => (some ⟨(readSign s).1, digits⟩, rest)
      | none => (none, c :: s)
    else (none, c :: s)

def readMinus : Str → Bool × Str
  | '-' :: s => (true, s)
  | s => (false, s)

def readLiteral (s : Str) : Option (NumberLiteral × Str) :=
  match readWhole (readMinus s).2 with
  | none => none
  | some (whole, rest) =>
    let (fraction, rest) := readFractionPart rest
    let (exponent, rest) := readExponentPart rest
    some (⟨(readMinus s).1, whole, fraction, exponent⟩, rest)

/-! ## The round trip -/

def Delimited (rest : Str) : Prop :=
  ∀ c ∈ rest.head?, c.isDigit = false ∧ c ≠ '.' ∧ c ≠ 'e' ∧ c ≠ 'E'

theorem delimited_cons {c : Char} {rest : Str}
    (other : c.isDigit = false ∧ c ≠ '.' ∧ c ≠ 'e' ∧ c ≠ 'E') : Delimited (c :: rest) := by
  simpa [Delimited] using other

section

variable {rest : Str}

theorem readDigits_append (digits : Digits) (ends : ∀ c ∈ rest.head?, c.isDigit = false) :
    readDigits (digits.text ++ rest) = some (digits, rest) := by
  have none : rest.takeWhile Char.isDigit = [] ∧ rest.dropWhile Char.isDigit = rest := by
    cases rest with
    | nil => exact ⟨rfl, rfl⟩
    | cons c rest =>
      have other : c.isDigit = false := ends c rfl
      simp [other]
  have taken : (digits.text ++ rest).takeWhile Char.isDigit = digits.text := by
    rw [List.takeWhile_append_of_pos digits.decimal, none.1, List.append_nil]
  have dropped : (digits.text ++ rest).dropWhile Char.isDigit = rest := by
    rw [List.dropWhile_append_of_pos digits.decimal, none.2]
  have nonempty := digits.nonempty
  simp only [readDigits, taken, dropped, dif_pos (show _ ≠ [] from nonempty)]

theorem readWhole_append (whole : Whole) (ends : ∀ c ∈ rest.head?, c.isDigit = false) :
    readWhole (whole.text ++ rest) = some (whole, rest) := by
  rw [readWhole, readDigits_append whole.toDigits ends]
  by_cases zero : whole.text.head? = some '0'
  · have single := whole.leading zero
    obtain ⟨⟨text, nonempty, decimal⟩, leading⟩ := whole
    simp only at single
    subst single
    rfl
  · simp only [dif_neg zero]

theorem readFractionPart_append (fraction : Option Digits)
    (ends : ∀ c ∈ rest.head?, c.isDigit = false ∧ c ≠ '.') :
    readFractionPart (fractionText fraction ++ rest) = (fraction, rest) := by
  cases fraction with
  | some digits =>
    simp only [fractionText, Option.elim_some, List.cons_append, readFractionPart]
    rw [readDigits_append digits fun c head => (ends c head).1]
  | none =>
    cases rest with
    | nil => rfl
    | cons c rest =>
      have other : c ≠ '.' := (ends c rfl).2
      simp only [fractionText, Option.elim_none, List.nil_append]
      rw [readFractionPart]
      simpa using other

theorem readSign_append (negative : Bool) (digits : Digits) (rest : Str) :
    readSign ((if negative then '-' else '+') :: (digits.text ++ rest)) =
      (negative, digits.text ++ rest) := by
  cases negative <;> rfl

theorem readExponentPart_append (exponent : Option Exponent) (ends : Delimited rest) :
    readExponentPart (exponentText exponent ++ rest) = (exponent, rest) := by
  cases exponent with
  | some e =>
    simp only [exponentText, Option.elim_some, List.cons_append, readExponentPart, readSign_append,
      true_or, if_true]
    rw [readDigits_append e.digits fun c head => (ends c head).1]
  | none =>
    cases rest with
    | nil => rfl
    | cons c rest =>
      obtain ⟨-, -, small, capital⟩ := ends c rfl
      simp [exponentText, readExponentPart, small, capital]

theorem head_digits_append (digits : Digits) (rest : Str) :
    ∃ c s, digits.text ++ rest = c :: s ∧ c.isDigit = true := by
  obtain ⟨text, nonempty, decimal⟩ := digits
  cases text with
  | nil => exact absurd rfl nonempty
  | cons c s => exact ⟨c, s ++ rest, rfl, decimal c List.mem_cons_self⟩

theorem readMinus_append (l : NumberLiteral) (rest : Str) :
    readMinus (l.text ++ rest) =
      (l.negative, l.whole.text ++ (fractionText l.fraction ++ (exponentText l.exponent ++ rest))) := by
  rw [NumberLiteral.text]
  cases l.negative with
  | true => simp [readMinus]
  | false =>
    obtain ⟨c, s, same, digit⟩ := head_digits_append l.whole.toDigits
      (fractionText l.fraction ++ (exponentText l.exponent ++ rest))
    have other : c ≠ '-' := by
      rintro rfl
      cases digit
    simp only [Bool.false_eq_true, if_false, List.nil_append, List.append_assoc, same]
    rw [readMinus]
    simpa using other

/-- A literal is read off the front of a text. -/
theorem readLiteral_append (l : NumberLiteral) (ends : Delimited rest) :
    readLiteral (l.text ++ rest) = some (l, rest) := by
  have afterFraction : ∀ c ∈ (exponentText l.exponent ++ rest).head?, c.isDigit = false ∧ c ≠ '.' := by
    cases l.exponent with
    | some e => simp [exponentText]
    | none =>
      intro c head
      exact ⟨(ends c head).1, (ends c head).2.1⟩
  have afterWhole : ∀ c ∈ (fractionText l.fraction ++ (exponentText l.exponent ++ rest)).head?,
      c.isDigit = false := by
    cases l.fraction with
    | some digits => simp [fractionText]
    | none =>
      intro c head
      exact (afterFraction c head).1
  simp only [readLiteral, readMinus_append, readWhole_append l.whole afterWhole,
    readFractionPart_append l.fraction afterFraction, readExponentPart_append l.exponent ends]

end

end BurnLens.Library
