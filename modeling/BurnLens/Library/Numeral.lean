import BurnLens.Library.Text
import Mathlib.Algebra.Order.Ring.Rat
import Mathlib.Data.Char
import Mathlib.Data.Rat.Floor
import Mathlib.Order.Basic

/-! # Numerals

Decimal numerals padded with zeros, and the order of the texts that are made of them: the text
that is lexicographically less is the one whose first differing numeral is less.  Then numbers
rounded to a number of decimals, and written with it.
-/

namespace BurnLens.Library

/-- The last `width` decimal digits of `n`. -/
def numeral : (width : Nat) → Nat → Str
  | 0, _ => []
  | width + 1, n => Nat.digitChar (n / 10 ^ width % 10) :: numeral width n

@[simp] theorem length_numeral (width n : Nat) : (numeral width n).length = width := by
  induction width with
  | zero => rfl
  | succ width inductionHypothesis => simp [numeral, inductionHypothesis]

theorem numeral_mod (width n : Nat) : numeral width (n % 10 ^ width) = numeral width n := by
  have lower : ∀ width' ≤ width, numeral width' (n % 10 ^ width) = numeral width' n := by
    intro width' narrow
    induction width' with
    | zero => rfl
    | succ width' inductionHypothesis =>
      simp only [numeral]
      rw [inductionHypothesis (by omega)]
      congr 2
      -- the digit at `width'` lies below the cut at `width`
      obtain ⟨rest, rfl⟩ := Nat.exists_eq_add_of_lt narrow
      rw [show width' + rest + 1 = width' + (rest + 1) from rfl, Nat.pow_add, Nat.mod_mul_right_div_self,
        Nat.mod_mod_of_dvd _ (⟨10 ^ rest, Nat.pow_succ'⟩)]
  exact lower width le_rfl

theorem digitChar_lt {m n : Nat} (hm : m < 10) (hn : n < 10) :
    Nat.digitChar m < Nat.digitChar n ↔ m < n := by
  have digits : ∀ m n : Fin 10, Nat.digitChar m < Nat.digitChar n ↔ m < n := by decide
  exact digits ⟨m, hm⟩ ⟨n, hn⟩

theorem digitChar_inj {m n : Nat} (hm : m < 10) (hn : n < 10) :
    Nat.digitChar m = Nat.digitChar n ↔ m = n := by
  have digits : ∀ m n : Fin 10, Nat.digitChar m = Nat.digitChar n ↔ m = n := by decide
  exact (digits ⟨m, hm⟩ ⟨n, hn⟩).trans Fin.mk.inj_iff

/-- Two texts that begin with numerals of one width are ordered by them, and by what follows
    where these agree. -/
theorem numeral_append_lt {width m n : Nat} (hm : m < 10 ^ width) (hn : n < 10 ^ width) (s t : Str) :
    numeral width m ++ s < numeral width n ++ t ↔ m < n ∨ m = n ∧ s < t := by
  induction width generalizing m n with
  | zero =>
    obtain ⟨rfl, rfl⟩ : m = 0 ∧ n = 0 := by simpa using And.intro hm hn
    simp [numeral]
  | succ width inductionHypothesis =>
    have positive : 0 < 10 ^ width := Nat.pow_pos (by omega)
    rw [Nat.pow_succ] at hm hn
    have first : m / 10 ^ width < 10 := Nat.div_lt_of_lt_mul hm
    have second : n / 10 ^ width < 10 := Nat.div_lt_of_lt_mul hn
    have tails := inductionHypothesis (Nat.mod_lt m positive) (Nat.mod_lt n positive)
    rw [numeral_mod, numeral_mod] at tails
    simp only [numeral, List.cons_append, List.cons_lt_cons_iff, tails, Nat.mod_eq_of_lt first,
      Nat.mod_eq_of_lt second, digitChar_lt first second, digitChar_inj first second]
    -- a number is its leading digit and the rest
    have splitM := Nat.div_add_mod m (10 ^ width)
    have splitN := Nat.div_add_mod n (10 ^ width)
    have restM := Nat.mod_lt m positive
    have restN := Nat.mod_lt n positive
    constructor
    · rintro (less | ⟨same, less | ⟨sameRest, less⟩⟩)
      · left
        have room := Nat.mul_le_mul_left (10 ^ width) (Nat.succ_le_of_lt less)
        rw [Nat.mul_succ] at room
        omega
      · left; rw [same] at splitM; omega
      · right; rw [same] at splitM; exact ⟨by omega, less⟩
    · rintro (less | ⟨rfl, less⟩)
      · obtain lower | same | higher := lt_trichotomy (m / 10 ^ width) (n / 10 ^ width)
        · exact Or.inl lower
        · rw [same] at splitM; exact Or.inr ⟨same, Or.inl (by omega)⟩
        · have room := Nat.mul_le_mul_left (10 ^ width) (Nat.succ_le_of_lt higher)
          rw [Nat.mul_succ] at room
          omega
      · exact Or.inr ⟨rfl, Or.inr ⟨rfl, less⟩⟩

/-! ## Rounding -/

/-- The nearest integer; of two, the even one. -/
def roundHalfEven (x : ℚ) : ℤ :=
  let below := ⌊x⌋
  if x - below < 1 / 2 then below
  else if 1 / 2 < x - below then below + 1
  else if below % 2 = 0 then below
  else below + 1

theorem abs_roundHalfEven_sub_le (x : ℚ) : |roundHalfEven x - x| ≤ 1 / 2 := by
  have below := Int.floor_le x
  have above := Int.lt_floor_add_one x
  simp only [roundHalfEven]
  split_ifs with near far even
  all_goals
    push_cast
    rw [abs_le]
    constructor <;> linarith

theorem roundHalfEven_nonneg {x : ℚ} (nonneg : 0 ≤ x) : 0 ≤ roundHalfEven x := by
  have floor : 0 ≤ ⌊x⌋ := Int.floor_nonneg.mpr nonneg
  simp only [roundHalfEven]
  split_ifs <;> omega

theorem half_lt_of_roundHalfEven {x : ℚ} (positive : 1 ≤ roundHalfEven x) : 1 / 2 < x := by
  by_contra small
  have nonpos : roundHalfEven x ≤ 0 := by
    have floor : ⌊x⌋ ≤ 0 := by
      rw [Int.floor_le_iff]
      push_cast
      linarith
    simp only [roundHalfEven]
    split_ifs with near far even
    · exact floor
    · have below : ⌊x⌋ < 0 := by
        by_contra zero
        have : ⌊x⌋ = 0 := by omega
        rw [this] at far
        push_cast at far
        linarith
      omega
    · exact floor
    · omega
  omega

theorem roundHalfEven_mono {x y : ℚ} (le : x ≤ y) : roundHalfEven x ≤ roundHalfEven y := by
  obtain same | less := (Int.floor_mono le).eq_or_lt
  · simp only [roundHalfEven, same]
    split_ifs <;> first | omega | linarith
  · have upper : roundHalfEven x ≤ ⌊x⌋ + 1 := by
      simp only [roundHalfEven]
      split_ifs <;> omega
    have lower : ⌊y⌋ ≤ roundHalfEven y := by
      simp only [roundHalfEven]
      split_ifs <;> omega
    omega

theorem le_roundHalfEven_iff {n : ℤ} (even : n % 2 = 0) (x : ℚ) :
    n ≤ roundHalfEven x ↔ (n : ℚ) - 1 / 2 ≤ x := by
  constructor
  · intro le
    have near := (abs_le.mp (abs_roundHalfEven_sub_le x)).2
    have cast : (n : ℚ) ≤ roundHalfEven x := by exact_mod_cast le
    linarith
  · intro le
    have floor : ⌊(n : ℚ) - 1 / 2⌋ = n - 1 := by
      rw [Int.floor_eq_iff]
      push_cast
      constructor <;> linarith
    have tie : roundHalfEven ((n : ℚ) - 1 / 2) = n := by
      have odd : ¬ (n - 1) % 2 = 0 := by omega
      simp only [roundHalfEven, floor]
      rw [if_neg (by push_cast; linarith), if_neg (by push_cast; linarith), if_neg odd]
      omega
    exact tie.symm.trans_le (roundHalfEven_mono le)

theorem one_le_roundHalfEven_iff {x : ℚ} : 1 ≤ roundHalfEven x ↔ 1 / 2 < x := by
  constructor
  · exact half_lt_of_roundHalfEven
  · intro above
    have floor := Int.lt_floor_add_one x
    simp only [roundHalfEven]
    split_ifs with near far even
    · by_contra small
      have : (⌊x⌋ : ℚ) ≤ 0 := by exact_mod_cast (by omega : ⌊x⌋ ≤ 0)
      linarith
    · by_contra small
      have : (⌊x⌋ : ℚ) + 1 ≤ 0 := by exact_mod_cast (by omega : ⌊x⌋ + 1 ≤ 0)
      linarith
    · by_contra small
      have : (⌊x⌋ : ℚ) ≤ 0 := by exact_mod_cast (by omega : ⌊x⌋ ≤ 0)
      linarith
    · by_contra small
      have : (⌊x⌋ : ℚ) + 1 ≤ 0 := by exact_mod_cast (by omega : ⌊x⌋ + 1 ≤ 0)
      linarith

theorem roundHalfEven_intCast (n : ℤ) : roundHalfEven (n : ℚ) = n := by
  simp [roundHalfEven]

/-- `round(x, digits)`. -/
def roundTo (digits : Nat) (x : ℚ) : ℚ := roundHalfEven (x * 10 ^ digits) / 10 ^ digits

theorem roundTo_mono {digits : Nat} {x y : ℚ} (le : x ≤ y) : roundTo digits x ≤ roundTo digits y := by
  have scaled : x * 10 ^ digits ≤ y * 10 ^ digits := mul_le_mul_of_nonneg_right le (by positivity)
  have rounded : (roundHalfEven (x * 10 ^ digits) : ℚ) ≤ roundHalfEven (y * 10 ^ digits) := by
    exact_mod_cast roundHalfEven_mono scaled
  exact div_le_div_of_nonneg_right rounded (by positivity)

theorem abs_roundTo_sub_le (digits : Nat) (x : ℚ) : |roundTo digits x - x| ≤ 1 / 2 / 10 ^ digits := by
  have near := abs_roundHalfEven_sub_le (x * 10 ^ digits)
  have positive : (0 : ℚ) < 10 ^ digits := by positivity
  have scaled : roundTo digits x - x =
      (roundHalfEven (x * 10 ^ digits) - x * 10 ^ digits) / 10 ^ digits := by
    rw [roundTo]
    field_simp
  rw [scaled, abs_div, abs_of_pos positive]
  exact div_le_div_of_nonneg_right near positive.le

theorem roundTo_sub_roundTo (digits : Nat) (x y : ℚ) :
    roundTo digits (roundTo digits x - roundTo digits y) = roundTo digits x - roundTo digits y := by
  have positive : (0 : ℚ) < 10 ^ digits := by positivity
  have whole : (roundTo digits x - roundTo digits y) * 10 ^ digits =
      ((roundHalfEven (x * 10 ^ digits) - roundHalfEven (y * 10 ^ digits) : ℤ) : ℚ) := by
    rw [roundTo, roundTo]
    push_cast
    field_simp
  rw [roundTo, whole, roundHalfEven_intCast, ← whole]
  field_simp

theorem roundTo_pos_iff {digits : Nat} {x : ℚ} : 0 < roundTo digits x ↔ 1 / 2 / 10 ^ digits < x := by
  have positive : (0 : ℚ) < 10 ^ digits := by positivity
  rw [roundTo, div_pos_iff_of_pos_right positive, div_lt_iff₀ positive, ← one_le_roundHalfEven_iff,
    Int.cast_pos]
  omega

/-- `str` of an integer. -/
def decimal (n : Int) : Str := toString n

theorem decimal_natCast (n : Nat) : decimal n = Nat.toDigits 10 n := by
  rw [decimal, Int.toString_eq_repr, Int.repr_eq_if, if_pos (Int.natCast_nonneg n),
    Int.toNat_natCast, Nat.toList_repr]

theorem decimal_injective : Function.Injective fun n : Nat => decimal n := by
  intro m n same
  simp only [decimal_natCast] at same
  rw [← Nat.ofDigitChars_ten_toDigits (n := m), same, Nat.ofDigitChars_ten_toDigits]

/-- `f"{x:.{digits}f}"`. -/
def fixed (digits : Nat) (x : ℚ) : Str :=
  let scaled := (roundHalfEven (|x| * 10 ^ digits)).natAbs
  (if x < 0 then "-" else "") ++ decimal (scaled / 10 ^ digits) ++ "." ++ numeral digits scaled

example : fixed 2 (-201 / 1000) = ("-0.20" : Str) := by decide +kernel

end BurnLens.Library
