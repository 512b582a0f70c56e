import Mathlib.Algebra.Order.Field.Power
import Mathlib.Data.Rat.Floor
import Mathlib.Tactic.Linarith
import Mathlib.Tactic.Positivity
import PodTable.Number.Decimal

/-!
# Values of decimal numbers

`Decimal.size` is the absolute value of a decimal number as a rational number, and
`Decimal.toRat` is its value. The exponent of the leading digit tells the size of a number up to
a factor of ten.
-/

namespace PodTable

namespace Text

theorem width_zero :
  width 0 = 1
  := rfl

/-- A number is below the power of ten with as many zeros as it has digits. -/
theorem lt_pow_width (n : Nat) :
  n < 10 ^ width n
  := by
  rw [← width_le_iff (width_pos n)]

/-- A positive number is at least the power of ten with as many digits. -/
theorem pow_width_le {n : Nat} (h : n ≠ 0) :
  10 ^ (width n - 1) ≤ n
  := by
  by_contra hlt
  push Not at hlt
  rcases Nat.eq_zero_or_pos (width n - 1) with hz | hpos
  · rw [hz] at hlt
    omega
  · have := (width_le_iff hpos).mpr hlt
    omega

end Text

namespace Decimal

/-- The absolute value of `d`. -/
def size (d : Decimal) : ℚ := d.coefficient * 10 ^ d.exponent

/-- The value of `d`. -/
def toRat (d : Decimal) : ℚ := if d.negative then -d.size else d.size

variable {d d' : Decimal}

theorem size_mk (negative : Bool) (m : ℕ) (e : ℤ) :
  size ⟨negative, m, e⟩ = m * 10 ^ e
  := rfl

theorem size_nonneg (d : Decimal) :
  0 ≤ d.size
  := by
  unfold size
  positivity

theorem size_eq_zero_iff :
  d.size = 0 ↔ d.coefficient = 0
  := by
  have : (10 : ℚ) ^ d.exponent ≠ 0 := by positivity
  simp [size, this]

theorem abs_toRat (d : Decimal) :
  |d.toRat| = d.size
  := by
  unfold toRat
  split
  · rw [abs_neg, abs_of_nonneg d.size_nonneg]
  · rw [abs_of_nonneg d.size_nonneg]

theorem toRat_eq_zero_iff :
  d.toRat = 0 ↔ d.coefficient = 0
  := by
  rw [← abs_eq_zero, abs_toRat, size_eq_zero_iff]

theorem toRat_scale (d : Decimal) (n : Nat) (e : ℤ) :
  (d.scale n e).toRat = d.toRat * (n * 10 ^ e)
  := by
  simp only [toRat, scale, size, Nat.cast_mul, zpow_add₀ (by norm_num : (10 : ℚ) ≠ 0)]
  split <;> ring

/-- A number is below the power of ten above its leading digit. -/
theorem size_lt (d : Decimal) :
  d.size < 10 ^ (d.adjusted + 1)
  := by
  have h : (d.coefficient : ℚ) < 10 ^ (Text.width d.coefficient : ℤ) := by
    exact_mod_cast Text.lt_pow_width d.coefficient
  have hexp : d.adjusted + 1 = Text.width d.coefficient + d.exponent := by
    unfold adjusted
    omega
  rw [size, hexp, zpow_add₀ (by norm_num)]
  exact mul_lt_mul_of_pos_right h (by positivity)

/-- A number different from zero is at least the power of ten of its leading digit. -/
theorem le_size (h : d.coefficient ≠ 0) :
  10 ^ d.adjusted ≤ d.size
  := by
  have hpow : (10 : ℚ) ^ ((Text.width d.coefficient - 1 : Nat) : ℤ) ≤ d.coefficient := by
    exact_mod_cast Text.pow_width_le h
  have hpos := Text.width_pos d.coefficient
  have hexp : d.adjusted = (Text.width d.coefficient - 1 : Nat) + d.exponent := by
    unfold adjusted
    omega
  rw [size, hexp, zpow_add₀ (by norm_num)]
  exact mul_le_mul_of_nonneg_right hpow (by positivity)

/-- The exponent of the leading digit is below `k` for the numbers below `10 ^ k`. -/
theorem adjusted_lt_of_size_lt (h : d.coefficient ≠ 0) {k : ℤ} (hk : d.size < 10 ^ k) :
  d.adjusted < k
  := by
  have := lt_of_le_of_lt (le_size h) hk
  rwa [zpow_lt_zpow_iff_right₀ (by norm_num)] at this

/-- The exponent of the leading digit is at least `k` for the numbers from `10 ^ k` on. -/
theorem le_adjusted_of_le_size {k : ℤ} (hk : 10 ^ k ≤ d.size) :
  k ≤ d.adjusted
  := by
  have := lt_of_le_of_lt hk d.size_lt
  rw [zpow_lt_zpow_iff_right₀ (by norm_num)] at this
  omega

/-- A greater number has no lesser exponent of the leading digit. -/
theorem adjusted_mono (h : d.coefficient ≠ 0) (hle : d.size ≤ d'.size) :
  d.adjusted ≤ d'.adjusted
  := by
  apply le_adjusted_of_le_size
  exact le_trans (le_size h) hle

end Decimal

end PodTable
