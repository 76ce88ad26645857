import Mathlib.Algebra.BigOperators.Group.List.Basic
import Mathlib.Algebra.Order.Round
import Mathlib.Data.Rat.Floor

/-! # Decimals of a fixed scale

What a NUMERIC column of scale `s` makes of a number, where ties go away from zero, and what
`round` makes of it.
-/

namespace BurnLens.Library

/-- `x::numeric(_, scale)`, where it does not overflow. -/
def numeric (scale : Nat) (x : ℚ) : ℚ :=
  if 0 ≤ x then ⌊x * 10 ^ scale + 1 / 2⌋ / 10 ^ scale
  else -(⌊-x * 10 ^ scale + 1 / 2⌋ / 10 ^ scale)

/-- Has at most `scale` decimals. -/
def Decimal (scale : Nat) (x : ℚ) : Prop := (x * 10 ^ scale).den = 1

instance (scale : Nat) (x : ℚ) : Decidable (Decimal scale x) :=
  inferInstanceAs (Decidable (_ = _))

variable {scale : Nat} {x y : ℚ}

private theorem scale_ne_zero : (10 : ℚ) ^ scale ≠ 0 := pow_ne_zero _ (by norm_num)

theorem decimal_iff : Decimal scale x ↔ ∃ n : ℤ, x = n / 10 ^ scale := by
  constructor
  · intro decimal
    refine ⟨(x * 10 ^ scale).num, ?_⟩
    rw [(Rat.den_eq_one_iff _).mp decimal, mul_div_cancel_right₀ _ scale_ne_zero]
  · rintro ⟨n, rfl⟩
    rw [Decimal, div_mul_cancel₀ _ scale_ne_zero]
    rfl

private theorem floor_half (n : ℤ) : ⌊(n : ℚ) / 10 ^ scale * 10 ^ scale + 1 / 2⌋ = n := by
  rw [div_mul_cancel₀ _ scale_ne_zero, Int.floor_intCast_add]
  norm_num

theorem Decimal.numeric_eq (decimal : Decimal scale x) : numeric scale x = x := by
  obtain ⟨n, rfl⟩ := decimal_iff.mp decimal
  unfold numeric
  split
  · rw [floor_half]
  · have negated : -((n : ℚ) / 10 ^ scale) = ((-n : ℤ) : ℚ) / 10 ^ scale := by
      push_cast
      ring
    rw [negated, floor_half]
    push_cast
    ring

/-- `round(x, places)`: ties go to the even neighbour. -/
def roundEven (places : Nat) (x : ℚ) : ℚ :=
  let below := ⌊x * 10 ^ places⌋
  let rest := x * 10 ^ places - below
  (if rest < 1 / 2 ∨ (rest = 1 / 2 ∧ below % 2 = 0) then (below : ℚ) else below + 1) / 10 ^ places

theorem Decimal.roundEven_eq (decimal : Decimal scale x) : roundEven scale x = x := by
  obtain ⟨n, rfl⟩ := decimal_iff.mp decimal
  have whole : (n : ℚ) / 10 ^ scale * 10 ^ scale = n := div_mul_cancel₀ _ scale_ne_zero
  rw [roundEven, whole, Int.floor_intCast]
  simp

theorem Decimal.zero : Decimal scale 0 := decimal_iff.mpr ⟨0, by simp⟩

theorem Decimal.add (hx : Decimal scale x) (hy : Decimal scale y) : Decimal scale (x + y) := by
  obtain ⟨n, rfl⟩ := decimal_iff.mp hx
  obtain ⟨m, rfl⟩ := decimal_iff.mp hy
  exact decimal_iff.mpr ⟨n + m, by push_cast; ring⟩

theorem Decimal.sum {xs : List ℚ} (each : ∀ x ∈ xs, Decimal scale x) : Decimal scale xs.sum := by
  induction xs with
  | nil => exact Decimal.zero
  | cons x xs inductionHypothesis =>
    rw [List.sum_cons]
    apply Decimal.add (each x List.mem_cons_self)
    exact inductionHypothesis fun y member => each y (List.mem_cons_of_mem x member)

end BurnLens.Library
