import BurnLens.Library.Rounding
import Mathlib.Data.Int.Log
import Mathlib.Tactic.Linarith

/-! # Doubles

The numbers with a significand of 53 bits and gradual underflow, and the rounding to the nearest of
them, where ties go to the even significand.  The exponent has no upper bound: a number that
overflows is above all that it is compared with.
-/

namespace BurnLens.Library

def IsDouble (x : ℚ) : Prop := ∃ m e : ℤ, |m| ≤ 2 ^ 53 ∧ -1074 ≤ e ∧ x = m * 2 ^ e

/-- The exponent of the doubles around a number. -/
def gridExponent (x : ℚ) : ℤ := max (-1074) (Int.log 2 |x| - 52)

def toDouble (x : ℚ) : ℚ := roundEven 0 (x / 2 ^ gridExponent x) * 2 ^ gridExponent x

variable {x y w : ℚ}

private theorem two_zpow_pos (e : ℤ) : (0 : ℚ) < 2 ^ e := zpow_pos (by norm_num) e

private theorem abs_grid_sub (x k : ℚ) (e : ℤ) : |k * 2 ^ e - x| = |k - x / 2 ^ e| * 2 ^ e := by
  have positive := two_zpow_pos e
  rw [← abs_of_pos positive, ← abs_mul, abs_of_pos positive, sub_mul,
    div_mul_cancel₀ _ positive.ne']

theorem roundEven_zero (y : ℚ) : ∃ n : ℤ, roundEven 0 y = n ∧ |n - y| ≤ 1 / 2 := by
  have below := Int.floor_le y
  have above := Int.lt_floor_add_one y
  simp only [roundEven, pow_zero, mul_one, div_one]
  split
  · next near =>
    refine ⟨⌊y⌋, rfl, ?_⟩
    rw [abs_le]
    have half : y - ⌊y⌋ ≤ 1 / 2 := near.elim le_of_lt fun tie => le_of_eq tie.1
    constructor <;> linarith
  · next far =>
    refine ⟨⌊y⌋ + 1, by push_cast; rfl, ?_⟩
    have half : 1 / 2 ≤ y - ⌊y⌋ := not_lt.mp fun near => far (Or.inl near)
    push_cast
    rw [abs_le]
    constructor <;> linarith

theorem nearest_int {n : ℤ} (near : |n - y| ≤ 1 / 2) (k : ℤ) : |n - y| ≤ |k - y| := by
  by_cases same : k = n
  · rw [same]
  · have apart : (1 : ℚ) ≤ |(k : ℚ) - n| := by
      have whole : 1 ≤ |k - n| := Int.one_le_abs (sub_ne_zero.mpr same)
      exact_mod_cast whole
    have triangle : |(k : ℚ) - n| ≤ |k - y| + |y - n| := abs_sub_le _ _ _
    rw [abs_sub_comm y n] at triangle
    linarith

/-! ## The grid -/

theorem abs_div_grid_lt (x : ℚ) : |x / 2 ^ gridExponent x| < 2 ^ 53 := by
  have positive := two_zpow_pos (gridExponent x)
  rw [abs_div, abs_of_pos positive, div_lt_iff₀ positive]
  calc |x| < (2 : ℚ) ^ (Int.log 2 |x| + 1) := Int.lt_zpow_succ_log_self (by norm_num) |x|
    _ ≤ 2 ^ (53 + gridExponent x) := by
      apply zpow_le_zpow_right₀ (by norm_num)
      rw [gridExponent]
      omega
    _ = 2 ^ 53 * 2 ^ gridExponent x := by
      rw [zpow_add₀ (by norm_num)]
      norm_num

theorem isDouble_toDouble (x : ℚ) : IsDouble (toDouble x) := by
  obtain ⟨n, rounded, near⟩ := roundEven_zero (x / 2 ^ gridExponent x)
  refine ⟨n, gridExponent x, ?_, le_max_left _ _, by rw [toDouble, rounded]⟩
  have size := abs_div_grid_lt x
  have triangle : |(n : ℚ)| ≤ |n - x / 2 ^ gridExponent x| + |x / 2 ^ gridExponent x| := by
    simpa using abs_add_le ((n : ℚ) - x / 2 ^ gridExponent x) (x / 2 ^ gridExponent x)
  have small : |(n : ℚ)| < 2 ^ 53 + 1 := by linarith
  have whole : |n| < 2 ^ 53 + 1 := by exact_mod_cast small
  omega

theorem toDouble_zero : toDouble 0 = 0 := by
  simp [toDouble, roundEven]

/-- No double is nearer. -/
theorem toDouble_nearest (x : ℚ) (double : IsDouble w) : |toDouble x - x| ≤ |w - x| := by
  obtain rfl | nonzero := eq_or_ne x 0
  · rw [toDouble_zero, sub_zero, abs_zero]
    exact abs_nonneg _
  obtain ⟨m, f, bounded, lowest, rfl⟩ := double
  obtain ⟨n, rounded, near⟩ := roundEven_zero (x / 2 ^ gridExponent x)
  have exponent : gridExponent x = max (-1074) (Int.log 2 |x| - 52) := rfl
  rw [toDouble, rounded]
  generalize gridExponent x = e at near exponent ⊢
  have positive := two_zpow_pos e
  have closest : ∀ k : ℤ, |(n : ℚ) * 2 ^ e - x| ≤ |(k : ℚ) * 2 ^ e - x| := by
    intro k
    rw [abs_grid_sub, abs_grid_sub]
    exact mul_le_mul_of_nonneg_right (nearest_int near k) positive.le
  by_cases coarse : e ≤ f
  · -- the double lies on the grid
    obtain ⟨d, rfl⟩ := Int.le.dest coarse
    have on : (m : ℚ) * 2 ^ (e + (d : ℤ)) = ((m * 2 ^ d : ℤ) : ℚ) * 2 ^ e := by
      rw [zpow_add₀ (by norm_num), zpow_natCast]
      push_cast
      ring
    rw [on]
    exact closest _
  · -- it is smaller than the grid begins, and so than the number
    have log : e = Int.log 2 |x| - 52 := by omega
    have begins : (2 : ℚ) ^ 52 * 2 ^ e ≤ |x| := by
      have power := Int.zpow_log_le_self (b := 2) (by norm_num) (abs_pos.mpr nonzero)
      have same : (2 : ℚ) ^ 52 * 2 ^ e = 2 ^ Int.log 2 |x| := by
        rw [← zpow_natCast, ← zpow_add₀ (by norm_num)]
        congr 1
        push_cast
        omega
      rw [same]
      exact_mod_cast power
    have below : |(m : ℚ) * 2 ^ f| ≤ 2 ^ 52 * 2 ^ e := by
      have significand : |(m : ℚ)| ≤ 2 ^ 53 := by exact_mod_cast bounded
      calc |(m : ℚ) * 2 ^ f| = |(m : ℚ)| * 2 ^ f := by rw [abs_mul, abs_of_pos (two_zpow_pos f)]
        _ ≤ 2 ^ 53 * 2 ^ f := mul_le_mul_of_nonneg_right significand (two_zpow_pos f).le
        _ = 2 ^ 52 * 2 ^ (f + 1) := by
          rw [zpow_add₀ (by norm_num)]
          ring
        _ ≤ 2 ^ 52 * 2 ^ e := by
          apply mul_le_mul_of_nonneg_left _ (by norm_num)
          exact zpow_le_zpow_right₀ (by norm_num) (by omega)
    have away : |x| - |(m : ℚ) * 2 ^ f| ≤ |(m : ℚ) * 2 ^ f - x| := by
      rw [abs_sub_comm]
      exact abs_sub_abs_le_abs_sub _ _
    -- the grid point at the beginning, on the side of the number
    obtain nonneg | neg := le_total 0 x
    · have point := closest (2 ^ 52)
      rw [abs_of_nonneg nonneg] at begins away
      have distance : |((2 ^ 52 : ℤ) : ℚ) * 2 ^ e - x| = x - 2 ^ 52 * 2 ^ e := by
        rw [abs_sub_comm]
        push_cast
        exact abs_of_nonneg (by linarith)
      linarith
    · have point := closest (-2 ^ 52)
      rw [abs_of_nonpos neg] at begins away
      have distance : |((-2 ^ 52 : ℤ) : ℚ) * 2 ^ e - x| = -x - 2 ^ 52 * 2 ^ e := by
        push_cast
        rw [abs_of_nonneg (by linarith)]
        ring
      linarith

theorem toDouble_error {n : ℤ} (normal : -1021 ≤ n) (small : |x| < 2 ^ n) :
    |toDouble x - x| ≤ 2 ^ (n - 54) := by
  obtain rfl | nonzero := eq_or_ne x 0
  · rw [toDouble_zero, sub_zero, abs_zero]
    exact (two_zpow_pos _).le
  obtain ⟨k, rounded, near⟩ := roundEven_zero (x / 2 ^ gridExponent x)
  have log : Int.log 2 |x| < n :=
    (Int.lt_zpow_iff_log_lt (by norm_num) (abs_pos.mpr nonzero)).mp (by exact_mod_cast small)
  have fine : gridExponent x ≤ n - 53 := by
    rw [gridExponent]
    omega
  calc |toDouble x - x| = |k - x / 2 ^ gridExponent x| * 2 ^ gridExponent x := by
        rw [toDouble, rounded, abs_grid_sub]
    _ ≤ 1 / 2 * 2 ^ gridExponent x := mul_le_mul_of_nonneg_right near (two_zpow_pos _).le
    _ ≤ 1 / 2 * 2 ^ (n - 53) :=
      mul_le_mul_of_nonneg_left (zpow_le_zpow_right₀ (by norm_num) fine) (by norm_num)
    _ = 2 ^ (n - 54) := by
      rw [show n - 53 = n - 54 + 1 by ring, zpow_add_one₀ (by norm_num)]
      ring

theorem toDouble_le (double : IsDouble w) (below : x ≤ w) : toDouble x ≤ w := by
  by_contra above
  rw [not_le] at above
  have nearest := toDouble_nearest x double
  rw [abs_of_nonneg (by linarith), abs_of_nonneg (by linarith)] at nearest
  linarith

theorem le_toDouble (double : IsDouble w) (above : w ≤ x) : w ≤ toDouble x := by
  by_contra below
  rw [not_le] at below
  have nearest := toDouble_nearest x double
  rw [abs_of_nonpos (by linarith), abs_of_nonpos (by linarith)] at nearest
  linarith

theorem IsDouble.toDouble_eq (double : IsDouble w) : toDouble w = w :=
  le_antisymm (toDouble_le double le_rfl) (le_toDouble double le_rfl)

theorem isDouble_int {n : ℤ} (small : |n| ≤ 2 ^ 53) : IsDouble n := ⟨n, 0, small, by norm_num, by simp⟩

/-! ## Percentages -/

/-- Two doubles differ by a part of 2 to the power 53 of the larger one. -/
theorem double_gap (hx : IsDouble x) (hy : IsDouble y) (positive : 0 < y) (less : x < y) :
    y ≤ 2 ^ 53 * (y - x) := by
  obtain ⟨m, e, significand, -, rfl⟩ := hy
  obtain ⟨k, f, bounded, -, rfl⟩ := hx
  have powE := two_zpow_pos e
  have powF := two_zpow_pos f
  have top : (m : ℚ) ≤ 2 ^ 53 := by exact_mod_cast (le_abs_self m).trans significand
  have most : (k : ℚ) ≤ 2 ^ 53 := by exact_mod_cast (le_abs_self k).trans bounded
  -- two points of a grid differ by its step
  have apart : ∀ {a b : ℤ} {g : ℤ}, (a : ℚ) * 2 ^ g < b * 2 ^ g → 2 ^ g ≤ (b : ℚ) * 2 ^ g - a * 2 ^ g := by
    intro a b g below
    have pow := two_zpow_pos g
    have whole : a + 1 ≤ b := by exact_mod_cast lt_of_mul_lt_mul_right below pow.le
    have step : ((a : ℚ) + 1) * 2 ^ g ≤ b * 2 ^ g :=
      mul_le_mul_of_nonneg_right (by exact_mod_cast whole) pow.le
    linarith
  have onGrid : ∀ {a : ℤ} {g h : ℤ}, g ≤ h → ∃ b : ℤ, (a : ℚ) * 2 ^ h = b * 2 ^ g := by
    intro a g h finer
    obtain ⟨d, rfl⟩ := Int.le.dest finer
    refine ⟨a * 2 ^ d, ?_⟩
    rw [zpow_add₀ (by norm_num), zpow_natCast]
    push_cast
    ring
  by_cases coarse : e ≤ f
  · obtain ⟨b, same⟩ := onGrid (a := k) coarse
    rw [same] at less ⊢
    have step := apart less
    nlinarith
  · obtain ⟨b, same⟩ := onGrid (a := m) (le_of_not_ge coarse)
    have difference : (0 : ℚ) < m * 2 ^ e - k * 2 ^ f := sub_pos.mpr less
    have step : (2 : ℚ) ^ f ≤ m * 2 ^ e - k * 2 ^ f := by
      rw [same] at less ⊢
      exact apart less
    have edge : (k : ℚ) * 2 ^ f ≤ 2 ^ 53 * 2 ^ f := mul_le_mul_of_nonneg_right most powF.le
    by_cases short : (m : ℚ) * 2 ^ e ≤ 2 ^ 53 * 2 ^ f
    · linarith
    · -- the end of the finer grid lies between the two
      rw [not_le] at short
      have ends : (2 : ℚ) ^ (53 + f) = 2 ^ 53 * 2 ^ f := by
        rw [zpow_add₀ (by norm_num)]
        norm_num
      by_cases inside : e ≤ 53 + f
      · obtain ⟨b, point⟩ := onGrid (a := 1) inside
        rw [Int.cast_one, one_mul, ends] at point
        rw [point] at short edge
        have coarser := apart short
        nlinarith
      · have whole : 1 ≤ m := by
          have sign : (0 : ℚ) < m := (pos_iff_pos_of_mul_pos positive).mpr powE
          exact_mod_cast sign
        have double : 2 * (2 ^ 53 * (2 : ℚ) ^ f) ≤ 2 ^ e := by
          rw [← ends, ← zpow_one_add₀ (by norm_num)]
          exact zpow_le_zpow_right₀ (by norm_num) (by omega)
        have at_least : (2 : ℚ) ^ e ≤ m * 2 ^ e :=
          le_mul_of_one_le_left powE.le (by exact_mod_cast whole)
        linarith

/-- A percentage reaches 100 exactly where the amount reaches the whole, for doubles and with
    both roundings of `x / y * 100`. -/
theorem percent_reached (hx : IsDouble x) (hy : IsDouble y) (positive : 0 < y) :
    100 ≤ toDouble (toDouble (x / y) * 100) ↔ y ≤ x := by
  have one : IsDouble 1 := ⟨1, 0, by norm_num, by norm_num, by norm_num⟩
  have hundred : IsDouble 100 := ⟨100, 0, by norm_num, by norm_num, by norm_num⟩
  constructor
  · intro reached
    by_contra less
    rw [not_le] at less
    have gap := double_gap hx hy positive less
    -- the largest doubles below 1 and below 100
    have below : IsDouble (1 - 1 / 2 ^ 53) := ⟨2 ^ 53 - 1, -53, by norm_num, by norm_num, by norm_num⟩
    have near : IsDouble (100 - 1 / 2 ^ 46) :=
      ⟨100 * 2 ^ 46 - 1, -46, by norm_num, by norm_num, by norm_num⟩
    have ratio : x / y ≤ 1 - 1 / 2 ^ 53 := by
      rw [div_le_iff₀ positive]
      linarith
    have part := toDouble_le below ratio
    have distance := toDouble_nearest (toDouble (x / y) * 100) near
    obtain small | large := le_total (toDouble (x / y) * 100) (100 - 1 / 2 ^ 46)
    · have stays := toDouble_le near small
      linarith
    · rw [abs_of_nonneg (by linarith), abs_of_nonpos (by linarith)] at distance
      linarith
  · intro reached
    have ratio : 1 ≤ x / y := (one_le_div positive).mpr reached
    have part := le_toDouble one ratio
    exact le_toDouble hundred (by linarith)

end BurnLens.Library
