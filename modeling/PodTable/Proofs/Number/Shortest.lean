import PodTable.Number.Shortest
import PodTable.Proofs.Number.Precision

/-!
# Bounds of shortest numerals

A magnitude is below the power of ten of its decimal order, so its neighbours among the numerals
of a few digits have few digits, and a power of ten not far from zero.
-/

namespace PodTable

namespace Magnitude

variable {x : Magnitude}

theorem numerator_pos (hx : x.significand ≠ 0) :
  0 < x.numerator
  := by
  unfold numerator
  positivity

theorem denominator_pos (x : Magnitude) :
  0 < x.denominator
  := by
  unfold denominator
  positivity

/-! ### The decimal order -/

/-- A magnitude is below the power of ten of its order. -/
theorem quotient_lt (hx : x.significand ≠ 0) :
  (x.numerator : ℚ) / x.denominator < 10 ^ x.decimalOrder
  := by
  have hden : (0 : ℚ) < x.denominator := by exact_mod_cast x.denominator_pos
  unfold decimalOrder
  split
  · have hlt : x.numerator < 10 ^ Text.width x.floor * x.denominator := by
      rw [← Nat.div_lt_iff_lt_mul x.denominator_pos]
      exact Text.lt_pow_width x.floor
    rw [div_lt_iff₀ hden, zpow_natCast]
    exact_mod_cast hlt
  · rename_i hlt
    have hquotient : (x.denominator - 1) / x.numerator ≠ 0 := by
      rw [Ne, Nat.div_eq_zero_iff]
      have := numerator_pos hx
      omega
    have hpow := Text.pow_width_le hquotient
    have hwidth := Text.width_pos ((x.denominator - 1) / x.numerator)
    have hmul := Nat.div_mul_le_self (x.denominator - 1) x.numerator
    have hexp : (1 - Text.width ((x.denominator - 1) / x.numerator) : ℤ)
        = -(Text.width ((x.denominator - 1) / x.numerator) - 1 : ℕ) := by
      omega
    have hscaled : x.numerator * 10 ^ (Text.width ((x.denominator - 1) / x.numerator) - 1)
        < x.denominator := by
      have := Nat.mul_le_mul_left x.numerator hpow
      rw [Nat.mul_comm x.numerator (_ / _)] at this
      omega
    rw [hexp, zpow_neg, zpow_natCast, div_lt_iff₀ hden, inv_mul_eq_div,
      lt_div_iff₀ (by positivity)]
    exact_mod_cast hscaled

theorem numerator_lt (x : Magnitude) :
  x.numerator < 10 ^ (53 + x.exponent.toNat)
  := by
  calc x.numerator
      < 2 ^ 53 * 2 ^ x.exponent.toNat :=
        Nat.mul_lt_mul_of_pos_right x.significand_lt (by positivity)
    _ = 2 ^ (53 + x.exponent.toNat) := (pow_add _ _ _).symm
    _ ≤ 10 ^ (53 + x.exponent.toNat) := Nat.pow_le_pow_left (by decide) _

theorem denominator_lt (x : Magnitude) :
  x.denominator < 10 ^ (1 + (-x.exponent).toNat)
  := by
  calc x.denominator
      ≤ 10 ^ (-x.exponent).toNat := Nat.pow_le_pow_left (by decide) _
    _ < 10 ^ (1 + (-x.exponent).toNat) := Nat.pow_lt_pow_right (by decide) (by omega)

theorem decimalOrder_le (x : Magnitude) :
  x.decimalOrder ≤ 1024
  := by
  have hfloor : Text.width x.floor ≤ 53 + x.exponent.toNat := by
    rw [Text.width_le_iff (by omega)]
    exact lt_of_le_of_lt (Nat.div_le_self _ _) x.numerator_lt
  have := x.exponent_le
  unfold decimalOrder
  split <;> omega

theorem le_decimalOrder (x : Magnitude) :
  -1074 ≤ x.decimalOrder
  := by
  have hquotient : Text.width ((x.denominator - 1) / x.numerator) ≤ 1 + (-x.exponent).toNat := by
    rw [Text.width_le_iff (by omega)]
    apply lt_of_le_of_lt (Nat.div_le_self _ _)
    exact lt_of_le_of_lt (Nat.sub_le _ _) x.denominator_lt
  have := x.exponent_ge
  unfold decimalOrder
  split <;> omega

/-! ### Neighbours -/

theorem scaled_eq (x : Magnitude) (k : ℤ) :
  (x.scaledNumerator k : ℚ) / x.scaledDenominator k = x.numerator / x.denominator * 10 ^ k
  := by
  have hpow := Decimal.pow_toNat_div k 0
  rw [sub_zero, zero_sub] at hpow
  unfold scaledNumerator scaledDenominator
  push_cast
  rw [mul_div_mul_comm, hpow]

theorem scaledDenominator_pos (x : Magnitude) (k : ℤ) :
  0 < x.scaledDenominator k
  := by
  have := x.denominator_pos
  unfold scaledDenominator
  positivity

theorem scaledNumerator_le (hx : x.significand ≠ 0) (n : ℕ) :
  x.scaledNumerator (n - x.decimalOrder) ≤ 10 ^ n * x.scaledDenominator (n - x.decimalOrder)
  := by
  have hden : (0 : ℚ) < x.scaledDenominator (n - x.decimalOrder) := by
    exact_mod_cast x.scaledDenominator_pos _
  have hlt : (x.scaledNumerator (n - x.decimalOrder) : ℚ)
      / x.scaledDenominator (n - x.decimalOrder) < 10 ^ (n : ℤ) := by
    rw [scaled_eq]
    calc (x.numerator : ℚ) / x.denominator * 10 ^ (n - x.decimalOrder)
        < 10 ^ x.decimalOrder * 10 ^ (n - x.decimalOrder) :=
          mul_lt_mul_of_pos_right (quotient_lt hx) (by positivity)
      _ = 10 ^ (n : ℤ) := by
          rw [← zpow_add₀ (by norm_num), add_sub_cancel]
  rw [div_lt_iff₀ hden, zpow_natCast] at hlt
  exact_mod_cast hlt.le

/-- The numeral has a coefficient of few digits, and a power of ten not far from zero. -/
def IsBounded (r : ℕ × ℤ) : Prop := r.1 < 10 ^ 18 ∧ -2000 ≤ r.2 ∧ r.2 ≤ 2000

theorem isBounded_inDigits {n m : ℕ} (hn : n ≤ 17) (hm : m ≤ 2 * 10 ^ n + 1) :
  IsBounded (inDigits n m (n - x.decimalOrder))
  := by
  have hle : 10 ^ n ≤ 10 ^ 17 := Nat.pow_le_pow_right (by decide) hn
  have hlow := x.le_decimalOrder
  have hhigh := x.decimalOrder_le
  unfold inDigits IsBounded
  split <;> refine ⟨?_, ?_, ?_⟩ <;> simp only <;> omega

theorem near_le (hx : x.significand ≠ 0) (n : ℕ) :
  roundHalfEven (x.scaledNumerator (n - x.decimalOrder)) (x.scaledDenominator (n - x.decimalOrder))
    ≤ 10 ^ n
  := by
  apply roundHalfEven_le (x.scaledDenominator_pos _)
  apply scaledNumerator_le hx

theorem neighbour?_le (hx : x.significand ≠ 0) {n m : ℕ}
    (h : x.neighbour? (n - x.decimalOrder) = some m) :
  m ≤ 2 * 10 ^ n + 1
  := by
  have hnear := near_le hx n
  have hlow := le_trans (div_le_roundHalfEven (x.scaledNumerator (n - x.decimalOrder))
    (x.scaledDenominator (n - x.decimalOrder))) hnear
  simp only [neighbour?] at h
  split at h
  · cases h
    omega
  · simp only [Option.ite_none_right_eq_some, Option.some.injEq] at h
    omega

theorem isBounded_shortest (hx : x.significand ≠ 0) :
  IsBounded x.shortest
  := by
  unfold shortest
  split
  · rename_i r h
    obtain ⟨i, hi, hr⟩ := List.exists_of_findSome?_eq_some h
    rw [numeral?, Option.map_eq_some_iff] at hr
    obtain ⟨m, hm, rfl⟩ := hr
    have := List.mem_range.mp hi
    apply isBounded_inDigits (by omega) (neighbour?_le hx hm)
  · have := near_le hx 17
    apply isBounded_inDigits (by decide)
    omega

end Magnitude

end PodTable
