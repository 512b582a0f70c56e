import Mathlib.Tactic.Ring
import PodTable.Number.Precision
import PodTable.Proofs.Number.Decimal
import PodTable.Proofs.Number.Rounding

/-!
# Rounding to a precision

Rounding a decimal number to a precision is monotone in its value, so it depends on nothing but
the value. It keeps the values that the precision holds, those of a coefficient of few enough
digits and an exponent that is not too small, and it gives such a value. Away from the smallest
numbers it commutes with a shift of the point.
-/

namespace PodTable

namespace Decimal

variable {d d' : Decimal}

/-- The whole number nearest to `d / 10 ^ low`, the even one of two nearest. -/
def nearestAt (d : Decimal) (low : ℤ) : ℕ :=
  roundHalfEven (d.coefficient * 10 ^ (d.exponent - low).toNat) (10 ^ (low - d.exponent).toNat)

/-- The quotient of the two powers is the power to the difference. -/
theorem pow_toNat_div (a b : ℤ) :
  (10 : ℚ) ^ (a - b).toNat / 10 ^ (b - a).toNat = 10 ^ (a - b)
  := by
  rw [← zpow_natCast, ← zpow_natCast, ← zpow_sub₀ (by norm_num)]
  congr 1
  omega

theorem quotient_eq (d : Decimal) (low : ℤ) :
  ((d.coefficient * 10 ^ (d.exponent - low).toNat : ℕ) : ℚ) / (10 ^ (low - d.exponent).toNat : ℕ)
    = d.size / 10 ^ low
  := by
  push_cast
  rw [mul_div_assoc, pow_toNat_div, zpow_sub₀ (by norm_num), size, mul_div_assoc]

theorem nearestAt_mono (low : ℤ) (h : d.size ≤ d'.size) :
  d.nearestAt low ≤ d'.nearestAt low
  := by
  apply roundHalfEven_mono (by positivity) (by positivity)
  have hdiv : d.size / 10 ^ low ≤ d'.size / 10 ^ low :=
    div_le_div_of_nonneg_right h (by positivity)
  rw [← quotient_eq, ← quotient_eq, div_le_div_iff₀ (by positivity) (by positivity)] at hdiv
  exact_mod_cast hdiv

theorem nearestAt_self (negative : Bool) (m : ℕ) (low : ℤ) :
  nearestAt ⟨negative, m, low⟩ low = m
  := by
  simp [nearestAt, roundHalfEven_one]

theorem nearestAt_le {m : ℕ} {low : ℤ} (h : d.size ≤ m * 10 ^ low) :
  d.nearestAt low ≤ m
  := by
  rw [← size_mk false] at h
  rw [← nearestAt_self false m low]
  apply nearestAt_mono low h

/-- A number without digits below `low` is a multiple of `10 ^ low`. -/
theorem size_eq_nearestAt {low : ℤ} (h : low ≤ d.exponent) :
  d.size = d.nearestAt low * 10 ^ low
  := by
  have hzero : (low - d.exponent).toNat = 0 := by omega
  have hsub : ((d.exponent - low).toNat : ℤ) = d.exponent - low := by omega
  rw [nearestAt, hzero, pow_zero, roundHalfEven_one, size]
  push_cast
  rw [← zpow_natCast, hsub, mul_assoc, ← zpow_add₀ (by norm_num), Int.sub_add_cancel]

/-- A shift of the point moves along with the exponent rounded at. -/
theorem nearestAt_scale (d : Decimal) (k low : ℤ) :
  (d.scale 1 k).nearestAt (low + k) = d.nearestAt low
  := by
  unfold nearestAt scale
  simp

end Decimal

namespace Precision

variable {p : Precision} {d d' r : Decimal}

theorem dropDigits_eq (n drop : ℕ) :
  dropDigits n drop = roundHalfEven n (10 ^ drop)
  := by
  unfold dropDigits
  split
  · rename_i hdrop
    have hlt : n < 10 ^ (drop - 1) := by
      apply lt_of_lt_of_le (Text.lt_pow_width n)
      apply Nat.pow_le_pow_right (by decide)
      omega
    have hpow : 10 ^ drop = 10 * 10 ^ (drop - 1) := by
      rw [← pow_succ']
      congr 1
      omega
    rw [roundHalfEven, Nat.mod_eq_of_lt (by omega), Nat.div_eq_of_lt (by omega), if_pos]
    left
    omega
  · rfl

/-- A rounding has at most as many digits as the precision, or is the next power of ten. -/
theorem nearestAt_lowestExponent_le (p : Precision) (d : Decimal) :
  d.nearestAt (p.lowestExponent d) ≤ 10 ^ p.digits
  := by
  apply Decimal.nearestAt_le
  apply le_trans (le_of_lt d.size_lt)
  push_cast
  rw [← zpow_natCast, ← zpow_add₀ (by norm_num)]
  apply zpow_le_zpow_right₀ (by norm_num)
  unfold lowestExponent
  omega

theorem tiny_le_minExponent (p : Precision) :
  p.tiny ≤ p.minExponent
  := by
  have := p.digits_pos
  unfold tiny
  omega

/-- A number without digits below the lowest exponent is its own rounding. -/
theorem round_of_le (h : p.lowestExponent d ≤ d.exponent) :
  p.round d = d
  := by
  simp only [round, if_pos h]

/-- A number with digits below the lowest exponent is rounded there. -/
theorem round_of_lt (h : d.exponent < p.lowestExponent d) :
  p.round d =
    if p.digits < Text.width (d.nearestAt (p.lowestExponent d)) then
      ⟨d.negative, d.nearestAt (p.lowestExponent d) / 10, p.lowestExponent d + 1⟩
    else ⟨d.negative, d.nearestAt (p.lowestExponent d), p.lowestExponent d⟩
  := by
  have hzero : (d.exponent - p.lowestExponent d).toNat = 0 := by omega
  have hdrop : dropDigits d.coefficient (p.lowestExponent d - d.exponent).toNat
      = d.nearestAt (p.lowestExponent d) := by
    rw [dropDigits_eq, Decimal.nearestAt, hzero, pow_zero, mul_one]
  simp only [round, if_neg (not_le_of_gt h), hdrop]

/-- What a rounding is: it has the sign of `d`, the value of the multiple of the lowest exponent's
power of ten that is nearest to `d`, and a coefficient and an exponent within the precision. -/
theorem round_spec (d : Decimal) :
  (p.round d).negative = d.negative
    ∧ (p.round d).size = d.nearestAt (p.lowestExponent d) * 10 ^ p.lowestExponent d
    ∧ (p.round d).coefficient < 10 ^ p.digits
    ∧ p.tiny ≤ (p.round d).exponent
  := by
  have htiny : p.tiny ≤ p.lowestExponent d := le_max_left _ _
  rcases le_or_gt (p.lowestExponent d) d.exponent with hlow | hlow
  · rw [round_of_le hlow]
    refine ⟨rfl, Decimal.size_eq_nearestAt hlow, ?_, by omega⟩
    rw [← Text.width_le_iff p.digits_pos]
    have : d.adjusted - p.digits + 1 ≤ p.lowestExponent d := le_max_right _ _
    unfold Decimal.adjusted at this
    omega
  · rw [round_of_lt hlow]
    split
    · rename_i hcarry
      have hpow : d.nearestAt (p.lowestExponent d) = 10 ^ (p.digits - 1) * 10 := by
        have hle := nearestAt_lowestExponent_le p d
        have hlt := mt (Text.width_le_iff p.digits_pos).mpr (Nat.not_le_of_lt hcarry)
        rw [← pow_succ, Nat.sub_add_cancel p.digits_pos]
        omega
      rw [hpow, Nat.mul_div_cancel _ (by decide)]
      refine ⟨rfl, ?_, ?_, by simp only; omega⟩
      · rw [Decimal.size, zpow_add₀ (by norm_num)]
        push_cast
        ring
      · exact Nat.pow_lt_pow_right (by decide) (Nat.sub_lt p.digits_pos (by decide))
    · rename_i hfits
      refine ⟨rfl, rfl, ?_, htiny⟩
      rw [← Text.width_le_iff p.digits_pos]
      exact Nat.le_of_not_lt hfits

/-- A rounding does not go beyond a multiple of a power of ten from the lowest exponent on. -/
theorem round_le {m : ℕ} {k : ℤ} (hk : p.lowestExponent d ≤ k) (h : d.size ≤ m * 10 ^ k) :
  (p.round d).size ≤ m * 10 ^ k
  := by
  rw [← Decimal.size_mk false] at h ⊢
  rw [(p.round_spec d).2.1, Decimal.size_eq_nearestAt hk]
  apply mul_le_mul_of_nonneg_right _ (by positivity)
  exact_mod_cast Decimal.nearestAt_mono _ h

theorem le_round {m : ℕ} {k : ℤ} (hk : p.lowestExponent d ≤ k) (h : m * 10 ^ k ≤ d.size) :
  m * 10 ^ k ≤ (p.round d).size
  := by
  rw [← Decimal.size_mk false] at h ⊢
  rw [(p.round_spec d).2.1, Decimal.size_eq_nearestAt hk]
  apply mul_le_mul_of_nonneg_right _ (by positivity)
  exact_mod_cast Decimal.nearestAt_mono _ h

/-! ### Order -/

/-- The lowest exponent of a number different from zero grows with its size. -/
theorem lowestExponent_mono (p : Precision) (hd : d.coefficient ≠ 0) (h : d.size ≤ d'.size) :
  p.lowestExponent d ≤ p.lowestExponent d'
  := by
  have := Decimal.adjusted_mono hd h
  unfold lowestExponent
  omega

theorem size_round_of_zero (p : Precision) (hd : d.coefficient = 0) :
  (p.round d).size = 0
  := by
  have hzero := Decimal.size_eq_zero_iff.mpr hd
  have hle : (p.round d).size ≤ (0 : ℕ) * 10 ^ p.lowestExponent d := by
    apply round_le le_rfl
    simp [hzero]
  have hnonneg := (p.round d).size_nonneg
  simp only [Nat.cast_zero, zero_mul] at hle
  exact le_antisymm hle hnonneg

theorem toRat_round_of_zero (p : Precision) (hd : d.toRat = 0) :
  (p.round d).toRat = 0
  := by
  rw [Decimal.toRat_eq_zero_iff] at hd
  rw [← abs_eq_zero, Decimal.abs_toRat]
  exact p.size_round_of_zero hd

/-- Where the lowest exponents are different, the power of ten of the greater leading digit lies
between the numbers and their roundings. -/
theorem size_round_mono (p : Precision) (h : d.size ≤ d'.size) :
  (p.round d).size ≤ (p.round d').size
  := by
  by_cases hd : d.coefficient = 0
  · rw [p.size_round_of_zero hd]
    exact (p.round d').size_nonneg
  rcases (p.lowestExponent_mono hd h).eq_or_lt with heq | hlt
  · rw [(p.round_spec d).2.1, (p.round_spec d').2.1, heq]
    apply mul_le_mul_of_nonneg_right _ (by positivity)
    exact_mod_cast Decimal.nearestAt_mono _ h
  · have hd' : d'.coefficient ≠ 0 := by
      intro hzero
      apply hd
      rw [← Decimal.size_eq_zero_iff] at hzero ⊢
      exact le_antisymm (hzero ▸ h) d.size_nonneg
    have htop : p.lowestExponent d' = d'.adjusted - p.digits + 1 := by
      unfold lowestExponent at hlt ⊢
      omega
    have hdigits := p.digits_pos
    have hgap : d.adjusted + 1 ≤ d'.adjusted := by
      have : d.adjusted - p.digits + 1 ≤ p.lowestExponent d := le_max_right _ _
      omega
    calc (p.round d).size
        ≤ (1 : ℕ) * 10 ^ d'.adjusted := by
          apply round_le (by omega)
          rw [Nat.cast_one, one_mul]
          apply le_trans (le_of_lt d.size_lt)
          exact zpow_le_zpow_right₀ (by norm_num) hgap
      _ ≤ (p.round d').size := by
          apply le_round (by omega)
          rw [Nat.cast_one, one_mul]
          exact Decimal.le_size hd'

/-- Rounding is monotone in the value. -/
theorem round_mono (h : d.toRat ≤ d'.toRat) :
  (p.round d).toRat ≤ (p.round d').toRat
  := by
  have hnonneg := (p.round d).size_nonneg
  have hnonneg' := (p.round d').size_nonneg
  simp only [Decimal.toRat, (p.round_spec d).1, (p.round_spec d').1] at h ⊢
  cases hneg : d.negative <;> cases hneg' : d'.negative <;>
    simp only [hneg, hneg', if_true, if_false, Bool.false_eq_true] at h ⊢
  · exact p.size_round_mono h
  · have hsize := d.size_nonneg
    have hsize' := d'.size_nonneg
    have hd : d.size = 0 := by linarith
    have hd' : d'.size = 0 := by linarith
    rw [p.size_round_of_zero (Decimal.size_eq_zero_iff.mp hd),
      p.size_round_of_zero (Decimal.size_eq_zero_iff.mp hd'), neg_zero]
  · linarith
  · have := p.size_round_mono (neg_le_neg_iff.mp h)
    linarith

/-- Numbers of one value have roundings of one value. -/
theorem round_congr (h : d.toRat = d'.toRat) :
  (p.round d).toRat = (p.round d').toRat
  := by
  apply le_antisymm
  · apply round_mono h.le
  · apply round_mono h.ge

/-! ### Values that a precision holds -/

/-- The value `x` has few enough digits, and none below the least exponent. -/
def Holds (p : Precision) (x : ℚ) : Prop :=
  ∃ m e : ℤ, |m| < 10 ^ p.digits ∧ p.tiny ≤ e ∧ x = m * 10 ^ e

theorem lowestExponent_le (hd : d.coefficient < 10 ^ p.digits)
    (htiny : p.tiny ≤ d.exponent) :
  p.lowestExponent d ≤ d.exponent
  := by
  rw [← Text.width_le_iff p.digits_pos] at hd
  unfold lowestExponent Decimal.adjusted
  omega

/-- A value that the precision holds is the value of a number that is its own rounding. -/
theorem Holds.exists_decimal {x : ℚ} (h : p.Holds x) :
  ∃ d : Decimal, d.toRat = x ∧ p.round d = d
  := by
  obtain ⟨m, e, hm, he, rfl⟩ := h
  use ⟨decide (m < 0), m.natAbs, e⟩
  constructor
  · simp only [Decimal.toRat, Decimal.size, Nat.cast_natAbs]
    split
    · rename_i hneg
      rw [abs_of_neg (by simpa using hneg)]
      push_cast
      ring
    · rename_i hneg
      rw [abs_of_nonneg (by simpa using hneg)]
  · apply round_of_le
    apply lowestExponent_le _ he
    zify
    exact hm

/-- Rounding keeps a value that the precision holds. -/
theorem round_of_holds (h : p.Holds d.toRat) :
  (p.round d).toRat = d.toRat
  := by
  obtain ⟨d', hvalue, hround⟩ := h.exists_decimal
  rw [← round_congr hvalue, hround, hvalue]

/-- The precision holds the value of a rounding. -/
theorem holds_round (d : Decimal) :
  p.Holds (p.round d).toRat
  := by
  obtain ⟨-, -, hcoefficient, hexponent⟩ := p.round_spec d
  rw [Decimal.toRat]
  split
  · use -(p.round d).coefficient, (p.round d).exponent
    refine ⟨?_, hexponent, ?_⟩
    · rw [abs_neg, Nat.abs_cast]
      exact_mod_cast hcoefficient
    · rw [Decimal.size]
      push_cast
      ring
  · use (p.round d).coefficient, (p.round d).exponent
    refine ⟨?_, hexponent, by rw [Decimal.size, Int.cast_natCast]⟩
    rw [Nat.abs_cast]
    exact_mod_cast hcoefficient

theorem Holds.neg {x : ℚ} (h : p.Holds x) :
  p.Holds (-x)
  := by
  obtain ⟨m, e, hm, he, rfl⟩ := h
  use -m, e
  refine ⟨by rwa [abs_neg], he, ?_⟩
  push_cast
  ring

theorem holds_zero :
  p.Holds 0
  := ⟨0, p.tiny, by rw [abs_zero]; positivity, le_rfl, by simp⟩

theorem holds_pow {k : ℤ} (hk : p.tiny ≤ k) :
  p.Holds (10 ^ k)
  := by
  use 1, k
  refine ⟨?_, hk, by simp⟩
  rw [abs_one]
  exact one_lt_pow₀ (by decide) p.digits_pos.ne'

/-- A rounding does not go beyond a value that the precision holds. -/
theorem round_le_of_holds {x : ℚ} (hx : p.Holds x) (h : d.toRat ≤ x) :
  (p.round d).toRat ≤ x
  := by
  obtain ⟨d', rfl, hround⟩ := hx.exists_decimal
  rw [← hround]
  apply round_mono h

theorem le_round_of_holds {x : ℚ} (hx : p.Holds x) (h : x ≤ d.toRat) :
  x ≤ (p.round d).toRat
  := by
  obtain ⟨d', rfl, hround⟩ := hx.exists_decimal
  rw [← hround]
  apply round_mono h

/-- A number up to a power of ten has a rounding up to it. -/
theorem abs_round_le {k : ℤ} (hk : p.tiny ≤ k) (h : |d.toRat| ≤ 10 ^ k) :
  |(p.round d).toRat| ≤ 10 ^ k
  := by
  rw [abs_le] at h ⊢
  constructor
  · apply le_round_of_holds (holds_pow hk).neg h.1
  · apply round_le_of_holds (holds_pow hk) h.2

/-- A number has the value `x`, or the value of a rounding of it. -/
def Reads (p : Precision) (x : ℚ) (d : Decimal) : Prop :=
  d.toRat = x ∨ ∃ d' : Decimal, d'.toRat = x ∧ d.toRat = (p.round d').toRat

namespace Reads

variable {x y : ℚ}

theorem le_of_holds (h : p.Reads x d) (hy : p.Holds y) (hxy : x ≤ y) :
  d.toRat ≤ y
  := by
  rcases h with rfl | ⟨d', rfl, h⟩
  · exact hxy
  · rw [h]
    apply round_le_of_holds hy hxy

theorem ge_of_holds (h : p.Reads x d) (hy : p.Holds y) (hyx : y ≤ x) :
  y ≤ d.toRat
  := by
  rcases h with rfl | ⟨d', rfl, h⟩
  · exact hyx
  · rw [h]
    apply le_round_of_holds hy hyx

theorem eq_of_holds (h : p.Reads x d) (hx : p.Holds x) :
  d.toRat = x
  := by
  apply le_antisymm
  · apply h.le_of_holds hx le_rfl
  · apply h.ge_of_holds hx le_rfl

/-- All numbers that read one value have roundings of one value. -/
theorem round_eq (h : p.Reads x d) (hx : d'.toRat = x) :
  (p.round d).toRat = (p.round d').toRat
  := by
  rcases h with h | ⟨e, he, h⟩
  · apply round_congr
    rw [h, hx]
  · rw [round_of_holds (h ▸ holds_round e), h]
    apply round_congr
    rw [he, hx]

end Reads

/-! ### Shifts of the point -/

/-- The value is zero or not among the smallest. -/
def IsNormal (p : Precision) (x : ℚ) : Prop := x = 0 ∨ 10 ^ p.minExponent ≤ |x|

/-- Rounding commutes with a shift of the point away from zero, where the number is not among the
smallest. -/
theorem round_scale (hd : p.IsNormal d.toRat) (k : ℕ) :
  (p.round (d.scale 1 k)).toRat = (p.round d).toRat * 10 ^ k
  := by
  rcases hd with hzero | hnormal
  · have hscale : (d.scale 1 k).toRat = 0 := by rw [Decimal.toRat_scale, hzero, zero_mul]
    rw [p.toRat_round_of_zero hzero, p.toRat_round_of_zero hscale, zero_mul]
  · rw [Decimal.abs_toRat] at hnormal
    have hadj := Decimal.le_adjusted_of_le_size hnormal
    have hlow : p.lowestExponent (d.scale 1 k) = p.lowestExponent d + k := by
      simp only [lowestExponent, tiny, Decimal.adjusted, Decimal.scale, mul_one] at hadj ⊢
      omega
    have hsize : (p.round (d.scale 1 k)).size = (p.round d).size * 10 ^ k := by
      rw [(p.round_spec _).2.1, (p.round_spec d).2.1, hlow, Decimal.nearestAt_scale,
        zpow_add₀ (by norm_num), zpow_natCast, mul_assoc]
    have hsign : (d.scale 1 k).negative = d.negative := rfl
    rw [Decimal.toRat, Decimal.toRat, (p.round_spec _).1, (p.round_spec d).1, hsize, hsign]
    split <;> ring

/-- The rounding of a number that is not among the smallest is not among them. -/
theorem isNormal_round (hd : p.IsNormal d.toRat) :
  p.IsNormal (p.round d).toRat
  := by
  rcases hd with hzero | hnormal
  · left
    exact p.toRat_round_of_zero hzero
  · right
    have hpow : p.Holds (10 ^ p.minExponent) := holds_pow p.tiny_le_minExponent
    rw [le_abs'] at hnormal ⊢
    rcases hnormal with hle | hge
    · left
      apply round_le_of_holds hpow.neg hle
    · right
      apply le_round_of_holds hpow hge

/-- The value has at most `n` significant digits. -/
def HasDigits (n : ℕ) (x : ℚ) : Prop := ∃ m e : ℤ, |m| < 10 ^ n ∧ x = m * 10 ^ e

theorem Holds.hasDigits {x : ℚ} (h : p.Holds x) :
  HasDigits p.digits x
  := by
  obtain ⟨m, e, hm, -, hx⟩ := h
  exact ⟨m, e, hm, hx⟩

/-- The precision holds the values of few enough digits that are not among the smallest. -/
theorem IsNormal.holds {x : ℚ} (hx : p.IsNormal x) (h : HasDigits p.digits x) :
  p.Holds x
  := by
  rcases hx with rfl | hnormal
  · exact holds_zero
  · obtain ⟨m, e, hm, rfl⟩ := h
    have hcast : |(m : ℚ)| < 10 ^ p.digits := by exact_mod_cast hm
    have hpow : (0 : ℚ) < 10 ^ e := by positivity
    have hlt : (10 : ℚ) ^ p.minExponent < 10 ^ (p.digits + e) := by
      apply lt_of_le_of_lt hnormal
      rw [abs_mul, abs_of_pos hpow, zpow_add₀ (by norm_num), zpow_natCast]
      exact mul_lt_mul_of_pos_right hcast hpow
    rw [zpow_lt_zpow_iff_right₀ (by norm_num)] at hlt
    refine ⟨m, e, hm, ?_, rfl⟩
    unfold tiny
    omega

theorem Holds.mul_pow {x : ℚ} (h : p.Holds x) (k : ℕ) :
  p.Holds (x * 10 ^ k)
  := by
  obtain ⟨m, e, hm, he, rfl⟩ := h
  use m, e + k
  refine ⟨hm, by omega, ?_⟩
  rw [zpow_add₀ (by norm_num), zpow_natCast, mul_assoc]

theorem Reads.isNormal {x : ℚ} (h : p.Reads x d) (hx : p.IsNormal x) :
  p.IsNormal d.toRat
  := by
  rcases h with rfl | ⟨d', rfl, h⟩
  · exact hx
  · rw [h]
    apply isNormal_round hx

/-! ### Limits of the exponent -/

/-- A number brought within the limits has the value of its rounding. -/
theorem toRat_of_fit (h : p.fit d = some r) :
  r.toRat = (p.round d).toRat
  := by
  unfold fit at h
  split at h
  · rename_i hzero
    obtain rfl := Option.some.inj h
    rw [p.toRat_round_of_zero (Decimal.toRat_eq_zero_iff.mpr hzero), Decimal.toRat_eq_zero_iff]
    exact hzero
  · simp only [Option.ite_none_right_eq_some, Option.some.injEq] at h
    rw [h.2]

/-- What a number within the limits is. -/
theorem bounds_of_fit (h : p.fit d = some r) :
  r.negative = d.negative ∧ r.coefficient < 10 ^ p.digits ∧ r.size < 10 ^ (p.maxExponent + 1)
  := by
  unfold fit at h
  split at h
  · rename_i hzero
    obtain rfl := Option.some.inj h
    refine ⟨rfl, ?_, ?_⟩
    · rw [hzero]
      positivity
    · rw [Decimal.size_mk, hzero, Nat.cast_zero, zero_mul]
      positivity
  · simp only [Option.ite_none_right_eq_some, Option.some.injEq] at h
    obtain ⟨hadj, rfl⟩ := h
    refine ⟨(p.round_spec d).1, (p.round_spec d).2.2.1, ?_⟩
    apply lt_of_lt_of_le (Decimal.size_lt _)
    exact zpow_le_zpow_right₀ (by norm_num) (by omega)

/-- Only a number too small has no digits left, and it has the lowest exponent then. -/
theorem exponent_round_of_zero (hd : d.coefficient ≠ 0)
    (hr : (p.round d).coefficient = 0) :
  (p.round d).exponent = p.lowestExponent d
  := by
  rcases le_or_gt (p.lowestExponent d) d.exponent with hlow | hlow
  · rw [round_of_le hlow] at hr
    contradiction
  · rw [round_of_lt hlow] at hr ⊢
    split at hr
    · rename_i hcarry
      have hlt := mt (Text.width_le_iff p.digits_pos).mpr (Nat.not_le_of_lt hcarry)
      have hten : 10 ≤ 10 ^ p.digits := Nat.le_self_pow p.digits_pos.ne' 10
      simp only at hr
      omega
    · rename_i hfits
      rw [if_neg hfits]

/-- A number refused for its size has a rounding beyond the greatest exponent. -/
theorem le_abs_of_fit_eq_none (h : p.fit d = none) :
  10 ^ (p.maxExponent + 1) ≤ |(p.round d).toRat|
  := by
  unfold fit at h
  split at h
  · cases h
  rename_i hd
  have hadj : p.maxExponent < (p.round d).adjusted := by
    by_contra hle
    rw [if_pos (not_lt.mp hle)] at h
    cases h
  have hr : (p.round d).coefficient ≠ 0 := by
    intro hr
    have hexp := exponent_round_of_zero hd hr
    have hlow : p.lowestExponent d ≤ d.adjusted := by
      simp only [Decimal.adjusted, hr, hexp, Text.width_zero] at hadj
      have htiny := p.tiny_le_minExponent
      have hmin := p.minExponent_le
      have hdigits := p.digits_pos
      unfold lowestExponent at hadj ⊢
      omega
    have hle : (1 : ℕ) * 10 ^ d.adjusted ≤ (p.round d).size := by
      apply le_round hlow
      simpa using Decimal.le_size hd
    rw [Decimal.size_eq_zero_iff.mpr hr] at hle
    have : (0 : ℚ) < (1 : ℕ) * 10 ^ d.adjusted := by positivity
    linarith
  rw [Decimal.abs_toRat]
  apply le_trans _ (Decimal.le_size hr)
  exact zpow_le_zpow_right₀ (by norm_num) hadj

/-- The numbers refused for their size are those with a rounding beyond the greatest exponent. -/
theorem fit_eq_none_iff :
  p.fit d = none ↔ 10 ^ (p.maxExponent + 1) ≤ |(p.round d).toRat|
  := by
  constructor
  · exact le_abs_of_fit_eq_none
  · intro hle
    cases hfit : p.fit d with
    | none => rfl
    | some r =>
      have hlt := (bounds_of_fit hfit).2.2
      rw [← Decimal.abs_toRat, toRat_of_fit hfit] at hlt
      exact absurd hlt (not_lt.mpr hle)

/-- A number whose value the precision holds is within the limits, unless it is too large. -/
theorem exists_fit (hd : p.Holds d.toRat) (hlt : |d.toRat| < 10 ^ (p.maxExponent + 1)) :
  ∃ r, p.fit d = some r
  := by
  apply Option.ne_none_iff_exists'.mp
  rw [ne_eq, fit_eq_none_iff, round_of_holds hd, not_le]
  exact hlt

theorem shift_eq (p : Precision) (d : Decimal) (n : ℤ) :
  p.shift d n = if n.natAbs ≤ p.maxShift then p.fit (d.scale 1 n) else none
  := by
  simp [shift, Decimal.scale]

/-- A number within the limits is kept, digit for digit. -/
theorem fit_eq_self (hd : d.coefficient < 10 ^ p.digits)
    (htiny : p.tiny ≤ d.exponent) (hadj : d.adjusted ≤ p.maxExponent) :
  p.fit d = some d
  := by
  unfold fit
  split
  · rename_i hzero
    have : d.exponent ≤ p.maxExponent := by
      simpa [Decimal.adjusted, hzero, Text.width_zero] using hadj
    rw [min_eq_right this, max_eq_right htiny]
  · rw [round_of_le (lowestExponent_le hd htiny), if_pos hadj]

end Precision

end PodTable
