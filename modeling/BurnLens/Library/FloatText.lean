import BurnLens.Library.Double
import BurnLens.Library.Json
import BurnLens.Library.NumberLiteral
import BurnLens.Library.Numeral
import Mathlib.Tactic.FieldSimp

/-! # Floats as text

`repr` of a float: of the decimals that are rounded to it, one with the fewest digits, and the nearest of
these.  Reading the text rounds it, and so gives the float again.
-/

namespace BurnLens.Library

/-! ## The shortest decimal -/

/-- The neighbours of a number on the grid of a power of ten, the nearer one first: one that is rounded
to the number. -/
def onGrid (a : ℚ) (q : ℤ) : Option Nat :=
  let scaled := a / 10 ^ q
  [(roundHalfEven scaled).toNat, ⌊scaled⌋.toNat, ⌈scaled⌉.toNat].find? fun n : Nat =>
    toDouble (n * 10 ^ q) = a

/-- On the first of some grids that has one. -/
def shortestFrom (a : ℚ) : (finer : Nat) → ℤ → Nat × ℤ
  | 0, q => (⌊a / 10 ^ q⌋.toNat, q)
  | finer + 1, q =>
    match onGrid a q with
    | some n => (n, q)
    | none => shortestFrom a finer (q - 1)

/-- From a grid above the number down to one that holds all doubles. -/
def shortestDecimal (a : ℚ) : Nat × ℤ :=
  shortestFrom a (Int.log 10 a + 1 + 1074).toNat (Int.log 10 a + 1)

section

variable {a x : ℚ} {q : ℤ}

theorem IsDouble.decimal (double : IsDouble a) (nonneg : 0 ≤ a) (fine : q ≤ -1074) :
    ∃ n : Nat, a = n * 10 ^ q := by
  obtain ⟨m, e, -, least, rfl⟩ := double
  have two : (2 : ℚ) ^ (e - q).toNat = 2 ^ e / 2 ^ q := by
    rw [← zpow_natCast, Int.toNat_of_nonneg (by omega), zpow_sub₀ (by norm_num)]
  have five : (5 : ℚ) ^ (-q).toNat = (5 ^ q)⁻¹ := by
    rw [← zpow_natCast, Int.toNat_of_nonneg (by omega), zpow_neg]
  have ten : (10 : ℚ) ^ q = 2 ^ q * 5 ^ q := by
    rw [← mul_zpow]
    norm_num
  have positive : (0 : ℚ) < 10 ^ q := zpow_pos (by norm_num) q
  have whole : (m : ℚ) * 2 ^ e = ((m * 2 ^ (e - q).toNat * 5 ^ (-q).toNat : ℤ) : ℚ) * 10 ^ q := by
    push_cast
    rw [two, five, ten]
    field_simp
  have natural : 0 ≤ m * 2 ^ (e - q).toNat * 5 ^ (-q).toNat := by
    rw [whole] at nonneg
    exact_mod_cast nonneg_of_mul_nonneg_left nonneg positive
  obtain ⟨n, same⟩ := Int.eq_ofNat_of_zero_le natural
  refine ⟨n, whole.trans ?_⟩
  rw [same]
  norm_cast

theorem onGrid_readsBack {n : Nat} (found : onGrid a q = some n) : toDouble (n * 10 ^ q) = a := by
  simpa using List.find?_some found

theorem shortestFrom_readsBack (double : IsDouble a) (nonneg : 0 ≤ a) (finer : Nat)
    (fine : q - finer ≤ -1074) :
    toDouble ((shortestFrom a finer q).1 * 10 ^ (shortestFrom a finer q).2) = a := by
  induction finer generalizing q with
  | zero =>
    obtain ⟨n, same⟩ := double.decimal nonneg (q := q) (by omega)
    have grid : a / 10 ^ q = n := by
      rw [same, mul_div_cancel_right₀ _ (zpow_pos (by norm_num) q).ne']
    simp only [shortestFrom, grid, Int.floor_natCast, Int.toNat_natCast]
    rw [← same, double.toDouble_eq]
  | succ finer inductionHypothesis =>
    rw [shortestFrom]
    cases found : onGrid a q with
    | some n => exact onGrid_readsBack found
    | none => exact inductionHypothesis (by omega)

theorem shortestDecimal_readsBack (double : IsDouble a) (nonneg : 0 ≤ a) :
    toDouble ((shortestDecimal a).1 * 10 ^ (shortestDecimal a).2) = a :=
  shortestFrom_readsBack double nonneg _ (by omega)

end

/-! ## Writing a decimal -/

namespace Digits

def ofNat (n : Nat) : Digits :=
  ⟨Nat.toDigits 10 n, Nat.toDigits_ne_nil, fun _ member =>
    Nat.isDigit_of_mem_toDigits (by decide) (by decide) member⟩

def padded (before : Nat) (digits : Digits) (after : Nat) : Digits where
  text := List.replicate before '0' ++ digits.text ++ List.replicate after '0'
  nonempty := by simp [digits.nonempty]
  decimal c member := by
    simp only [List.mem_append, List.mem_replicate] at member
    obtain (⟨-, rfl⟩ | inside) | ⟨-, rfl⟩ := member
    · rfl
    · exact digits.decimal c inside
    · rfl

def take (digits : Digits) (count : Nat) (some : 0 < count) : Digits where
  text := digits.text.take count
  nonempty := by
    rw [ne_eq, List.take_eq_nil_iff]
    exact fun none => none.elim (Nat.ne_of_gt some) digits.nonempty
  decimal c member := digits.decimal c (List.mem_of_mem_take member)

def drop (digits : Digits) (count : Nat) (more : count < digits.text.length) : Digits where
  text := digits.text.drop count
  nonempty := by
    rw [ne_eq, List.drop_eq_nil_iff]
    omega
  decimal c member := digits.decimal c (List.mem_of_mem_drop member)

end Digits

theorem head_toDigits {n : Nat} (positive : 0 < n) : (Nat.toDigits 10 n).head? ≠ some '0' := by
  induction n using Nat.strongRecOn with
  | _ n inductionHypothesis =>
    rw [Nat.toDigits_eq_if (by decide)]
    split
    · next single =>
      have digits : ∀ n : Fin 10, 0 < n.val → [Nat.digitChar n].head? ≠ some '0' := by decide
      exact digits ⟨n, single⟩ positive
    · have rest := inductionHypothesis (n / 10) (by omega) (by omega)
      rwa [List.head?_append_of_ne_nil _ Nat.toDigits_ne_nil]

def Whole.ofDigits (digits : Digits) (head : digits.text.head? ≠ some '0') : Whole :=
  ⟨digits, fun zero => absurd zero head⟩

theorem head_take {n count : Nat} (positive : 0 < n) (some : 0 < count) :
    ((Digits.ofNat n).take count some).text.head? ≠ .some '0' := by
  simp only [Digits.take, Digits.ofNat, List.head?_take, Nat.ne_of_gt some, if_false]
  exact head_toDigits positive

theorem head_padded {n : Nat} (positive : 0 < n) (after : Nat) :
    ((Digits.ofNat n).padded 0 after).text.head? ≠ some '0' := by
  simp only [Digits.padded, Digits.ofNat, List.replicate_zero, List.nil_append]
  rw [List.head?_append_of_ne_nil _ Nat.toDigits_ne_nil]
  exact head_toDigits positive

def Exponent.ofInt (power : ℤ) : Exponent where
  negative := power < 0
  digits := let digits := Digits.ofNat power.natAbs
    if digits.text.length < 2 then digits.padded 1 0 else digits

/-- `n * 10 ^ q`, with an exponent where the point is far from the digits. -/
def reprLiteral (negative : Bool) (n : Nat) (positive : 0 < n) (q : ℤ) : NumberLiteral :=
  let digits := Digits.ofNat n
  let point : ℤ := digits.text.length + q
  if -4 < point ∧ point ≤ 16 then
    if before : point ≤ 0 then ⟨negative, .zero, some (digits.padded (-point).toNat 0), none⟩
    else if inside : point < digits.text.length then
      ⟨negative, .ofDigits (digits.take point.toNat (by omega)) (head_take positive _),
        some (digits.drop point.toNat (by omega)), none⟩
    else ⟨negative, .ofDigits (digits.padded 0 q.toNat) (head_padded positive _),
      some Whole.zero.toDigits, none⟩
  else
    ⟨negative, .ofDigits (digits.take 1 Nat.one_pos) (head_take positive _),
      if more : 1 < digits.text.length then some (digits.drop 1 more) else none,
      some (.ofInt (point - 1))⟩

theorem value_ofNat (n : Nat) : (Digits.ofNat n).value = n := Nat.ofDigitChars_ten_toDigits

theorem digits_padded (n before after : Nat) :
    Nat.ofDigitChars 10 ((Digits.ofNat n).padded before after).text 0 = n * 10 ^ after := by
  simp [Digits.padded, Digits.ofNat, Nat.ofDigitChars_append, Nat.mul_comm]

theorem value_ofInt (power : ℤ) : (Exponent.ofInt power).value = power := by
  have size : (Exponent.ofInt power).digits.value = power.natAbs := by
    simp only [Exponent.ofInt]
    split
    · exact (digits_padded _ 1 0).trans (by simp)
    · exact value_ofNat _
  rw [Exponent.value, size]
  simp only [Exponent.ofInt, decide_eq_true_eq]
  split <;> omega

theorem magnitude_eq {l : NumberLiteral} {n k : Nat} {q : ℤ} (digits : l.significand = n * 10 ^ k)
    (scale : l.scale = q - k) : l.magnitude = n * 10 ^ q := by
  rw [NumberLiteral.magnitude, digits, scale, zpow_sub₀ (by norm_num), zpow_natCast]
  push_cast
  field_simp

theorem magnitude_reprLiteral (negative : Bool) {n : Nat} (positive : 0 < n) (q : ℤ) :
    (reprLiteral negative n positive q).magnitude = n * 10 ^ q := by
  have length : (Digits.ofNat n).text.length = (Nat.toDigits 10 n).length := rfl
  have some : 0 < (Nat.toDigits 10 n).length := Nat.length_toDigits_pos
  simp only [reprLiteral]
  split_ifs with near before inside more
  · -- zeros between the point and the digits
    refine magnitude_eq (k := 0) ?_ ?_
    · have zero := digits_padded n (-(((Digits.ofNat n).text.length : ℤ) + q)).toNat 0
      simpa [NumberLiteral.significand, Whole.zero, Nat.ofDigitChars_cons] using zero
    · simp [NumberLiteral.scale, Digits.padded]
      omega
  · -- the point between the digits
    refine magnitude_eq (k := 0) ?_ ?_
    · simp [NumberLiteral.significand, Whole.ofDigits, Digits.take, Digits.drop, Digits.ofNat]
    · simp [NumberLiteral.scale, Digits.drop]
      omega
  · -- zeros between the digits and the point
    refine magnitude_eq (k := q.toNat + 1) ?_ ?_
    · have zeros := digits_padded n 0 q.toNat
      simp [NumberLiteral.significand, Whole.ofDigits, Whole.zero, Nat.ofDigitChars_append, zeros,
        Nat.ofDigitChars_cons]
      ring
    · simp [NumberLiteral.scale, Whole.zero]
      omega
  · refine magnitude_eq (k := 0) ?_ ?_
    · have whole : Nat.ofDigitChars 10
          ((Nat.toDigits 10 n).take 1 ++ (Nat.toDigits 10 n).drop 1) 0 = n := by
        rw [List.take_append_drop, Nat.ofDigitChars_ten_toDigits]
      simpa [NumberLiteral.significand, Whole.ofDigits, Digits.take, Digits.drop, Digits.ofNat]
        using whole
    · simp [NumberLiteral.scale, Digits.drop, value_ofInt]
      omega
  · -- a single digit
    refine magnitude_eq (k := 0) ?_ ?_
    · have single : (Nat.toDigits 10 n).take 1 = Nat.toDigits 10 n := by
        rw [List.take_eq_self_iff]
        omega
      simp [NumberLiteral.significand, Whole.ofDigits, Digits.take, Digits.ofNat, single]
    · simp [NumberLiteral.scale, value_ofInt]
      omega

/-! ## Floats -/

/-- The double that a literal is rounded to. -/
def NumberLiteral.float (l : NumberLiteral) : Flt :=
  let size := toDouble l.magnitude
  if 2 ^ 1024 ≤ size then .inf l.negative else .fin (if l.negative then -size else size)

/-- `0.0`. -/
def NumberLiteral.zero : NumberLiteral := ⟨false, .zero, some Whole.zero.toDigits, none⟩

def floatLiteral (x : ℚ) : NumberLiteral :=
  if positive : 0 < (shortestDecimal |x|).1 then
    reprLiteral (x < 0) (shortestDecimal |x|).1 positive (shortestDecimal |x|).2
  else .zero

/-- How `json.dumps` writes a float: its `repr`, if it is finite. -/
def floatText : Flt → Str
  | .fin x => (floatLiteral x).text
  | .inf negative => if negative then "-Infinity" else "Infinity"
  | .nan => "NaN"

def Flt.IsFloat : Flt → Prop
  | .fin x => IsDouble x ∧ |x| < 2 ^ 1024
  | _ => True

theorem isDouble_abs {x : ℚ} (double : IsDouble x) : IsDouble |x| := by
  obtain ⟨m, e, bounded, least, rfl⟩ := double
  refine ⟨|m|, e, by rwa [abs_abs], least, ?_⟩
  rw [abs_mul, abs_of_pos (zpow_pos (by norm_num : (0 : ℚ) < 2) e), Int.cast_abs]

theorem isInteger_floatLiteral (x : ℚ) : (floatLiteral x).isInteger = false := by
  unfold floatLiteral
  split
  · simp only [reprLiteral]
    split
    · split
      · rfl
      · split <;> rfl
    · simp [NumberLiteral.isInteger]
  · rfl

theorem negative_reprLiteral (negative : Bool) {n : Nat} (positive : 0 < n) (q : ℤ) :
    (reprLiteral negative n positive q).negative = negative := by
  simp only [reprLiteral]
  split
  · split
    · rfl
    · split <;> rfl
  · rfl

/-- The text of a float is read as this float. -/
theorem float_floatLiteral {x : ℚ} (float : (Flt.fin x).IsFloat) :
    (floatLiteral x).float = .fin x := by
  obtain ⟨double, finite⟩ := float
  have back := shortestDecimal_readsBack (isDouble_abs double) (abs_nonneg x)
  by_cases positive : 0 < (shortestDecimal |x|).1
  · have size : toDouble (floatLiteral x).magnitude = |x| := by
      rw [floatLiteral, dif_pos positive, magnitude_reprLiteral, back]
    have sign : (floatLiteral x).negative = decide (x < 0) := by
      rw [floatLiteral, dif_pos positive, negative_reprLiteral]
    simp only [NumberLiteral.float, size, sign, if_neg (not_le.mpr finite), decide_eq_true_eq]
    split
    · next below => rw [abs_of_neg below, neg_neg]
    · next above => rw [abs_of_nonneg (not_lt.mp above)]
  · have none : (shortestDecimal |x|).1 = 0 := Nat.eq_zero_of_not_pos positive
    have zero : x = 0 := by
      rw [none, Nat.cast_zero, zero_mul, toDouble_zero] at back
      exact abs_eq_zero.mp back.symm
    have magnitude : NumberLiteral.zero.magnitude = 0 := by
      simp [NumberLiteral.magnitude, NumberLiteral.significand, NumberLiteral.zero, Whole.zero,
        Nat.ofDigitChars_cons]
    rw [floatLiteral, dif_neg positive, zero]
    simp only [NumberLiteral.float, magnitude, toDouble_zero]
    simp [NumberLiteral.zero]

end BurnLens.Library
