import PodTable.Proofs.Number.Binary64
import PodTable.Time.Duration

/-!
# Whole seconds of a duration

The seconds of a duration are a quotient that is rounded to a floating point number before its
fraction is cut. A longer duration has no fewer of them, whatever its length is. Up to `2 ^ 33`
seconds the rounding never reaches the next whole number, as a microsecond is more than half the
distance of two floating point numbers there.
-/

namespace PodTable

namespace Duration

/-- The number of microseconds is that of a duration, which has a limited number of days. -/
def IsDuration (d : ℤ) : Prop := excessDays? d = none

instance (d : ℤ) : Decidable (IsDuration d) := inferInstanceAs (Decidable (_ = _))

variable {d d' : ℤ} {n n' : ℕ} {x y : Magnitude}

theorem IsDuration.natAbs_lt (h : IsDuration d) :
  d.natAbs < 10 ^ 20
  := by
  unfold IsDuration excessDays? dayLimit at h
  simp only [ite_eq_left_iff, reduceCtorEq, imp_false, not_not] at h
  omega

theorem isDuration_of_natAbs_lt (h : d.natAbs < 2 ^ 33 * 1000000) :
  IsDuration d
  := by
  unfold IsDuration excessDays? dayLimit
  simp only [ite_eq_left_iff, reduceCtorEq, imp_false, not_not]
  omega

/-- The seconds of a duration as a floating point number. -/
theorem exists_ofRatio?_million (h : n < 10 ^ 20) :
  ∃ x, Magnitude.ofRatio? n 1000000 = some x
  := by
  apply Magnitude.exists_ofRatio? (by decide)
  calc (n : ℚ) / (1000000 : ℕ)
      ≤ n := div_le_self (by positivity) (by norm_num)
    _ < 10 ^ 20 := by exact_mod_cast h
    _ ≤ 2 ^ (67 : ℤ) := by norm_num
    _ ≤ 2 ^ (1023 : ℤ) := zpow_le_zpow_right₀ (by norm_num) (by decide)

theorem wholeSeconds_eq (h : Magnitude.ofRatio? d.natAbs 1000000 = some x) :
  wholeSeconds d = if d < 0 then -(x.floor : ℤ) else x.floor
  := by
  rw [wholeSeconds, h]

theorem floor_mono (h : n ≤ n') (hx : Magnitude.ofRatio? n 1000000 = some x)
    (hy : Magnitude.ofRatio? n' 1000000 = some y) :
  x.floor ≤ y.floor
  := by
  rw [x.floor_eq, y.floor_eq]
  apply Nat.floor_mono
  apply Magnitude.ofRatio?_mono (by decide) (by decide) _ hx hy
  apply div_le_div_of_nonneg_right _ (by positivity)
  exact_mod_cast h

/-- A longer duration has no fewer whole seconds. -/
theorem wholeSeconds_mono (hd : IsDuration d) (hd' : IsDuration d') (h : d ≤ d') :
  wholeSeconds d ≤ wholeSeconds d'
  := by
  obtain ⟨x, hx⟩ := exists_ofRatio?_million hd.natAbs_lt
  obtain ⟨y, hy⟩ := exists_ofRatio?_million hd'.natAbs_lt
  rw [wholeSeconds_eq hx, wholeSeconds_eq hy]
  split
  · split
    · have := floor_mono (by omega) hy hx
      omega
    · omega
  · rw [if_neg (by omega)]
    have := floor_mono (by omega) hx hy
    omega

/-- A rounding to at least twenty binary places keeps the whole part, as a microsecond is more than
half of the last of these places. -/
theorem nearestAt_div_eq {k : ℕ} (hk : 20 ≤ k) (n : ℕ) :
  Magnitude.nearestAt n 1000000 (-k) / 2 ^ k = n / 1000000
  := by
  have hpow : 2 ^ 20 ≤ 2 ^ k := Nat.pow_le_pow_right (by decide) hk
  apply Nat.div_eq_of_lt_le
  · apply Magnitude.le_nearestAt (by decide)
    rw [zpow_neg, zpow_natCast, Nat.cast_mul, Nat.cast_pow, Nat.cast_ofNat,
      mul_inv_cancel_right₀ (by positivity), le_div_iff₀ (by norm_num)]
    exact_mod_cast Nat.div_mul_le_self n 1000000
  · rw [Nat.lt_iff_le_pred (by positivity)]
    apply roundHalfEven_le_of_lt (by positivity)
    have hlt : n + 1 ≤ (n / 1000000 + 1) * 1000000 := by omega
    have hmul := Nat.mul_le_mul_right (2 ^ k) hlt
    have hzero : (-(k : ℤ)).toNat = 0 := by omega
    rw [neg_neg, Int.toNat_natCast, hzero, pow_zero]
    generalize 2 ^ k = b at hpow hmul
    rw [Nat.add_mul, Nat.mul_right_comm] at hmul
    omega

/-- Below `2 ^ 33` seconds a rounding keeps the whole part. -/
theorem floor_eq_div (h : n < 2 ^ 33 * 1000000) (hx : Magnitude.ofRatio? n 1000000 = some x) :
  x.floor = n / 1000000
  := by
  by_cases hn : n = 0
  · rw [hn, Magnitude.ofRatio?, if_pos rfl] at hx
    obtain rfl := Option.some.inj hx
    rw [hn, Magnitude.floor, Magnitude.numerator, Magnitude.zero, Nat.zero_mul, Nat.zero_div,
      Nat.zero_div]
  have horder : Magnitude.binaryOrder n 1000000 < 33 := by
    apply Magnitude.binaryOrder_lt hn (by decide)
    rw [div_lt_iff₀ (by norm_num)]
    exact_mod_cast h
  obtain ⟨k, hk, hplace⟩ : ∃ k : ℕ, 20 ≤ k ∧ Magnitude.lastPlace n 1000000 = -k := by
    unfold Magnitude.lastPlace
    exact ⟨(-max (-1074) (Magnitude.binaryOrder n 1000000 - 52)).toNat, by omega, by omega⟩
  have hvalue : x.toRat = (Magnitude.nearestAt n 1000000 (-k) : ℚ) / (2 ^ k : ℕ) := by
    rw [Magnitude.toRat_of_ofRatio? hn hx, hplace, zpow_neg, zpow_natCast, div_eq_mul_inv,
      Nat.cast_pow, Nat.cast_ofNat]
  rw [x.floor_eq, hvalue, Rat.natFloor_natCast_div_natCast, nearestAt_div_eq hk]

/-- Below `2 ^ 33` seconds the whole seconds are those of the exact quotient, cut toward zero. -/
theorem wholeSeconds_eq_tdiv (h : d.natAbs < 2 ^ 33 * 1000000) :
  wholeSeconds d = d.tdiv 1000000
  := by
  obtain ⟨x, hx⟩ := exists_ofRatio?_million (isDuration_of_natAbs_lt h).natAbs_lt
  rw [wholeSeconds_eq hx, floor_eq_div h hx]
  split
  · rw [← Int.neg_neg d, Int.neg_tdiv, Int.tdiv_eq_ediv_of_nonneg (by omega)]
    omega
  · rw [Int.tdiv_eq_ediv_of_nonneg (by omega)]
    omega

/-- A duration has less than minus one whole second from two seconds below zero on. -/
theorem wholeSeconds_lt_iff (h : IsDuration d) :
  wholeSeconds d < -1 ↔ d ≤ -2000000
  := by
  constructor
  · intro hlt
    by_contra hgt
    have hmono : wholeSeconds (-1999999) ≤ wholeSeconds d :=
      wholeSeconds_mono (by decide) h (by omega)
    rw [wholeSeconds_eq_tdiv (by decide)] at hmono
    have hcut : Int.tdiv (-1999999) 1000000 = -1 := by decide
    omega
  · intro hle
    have hmono : wholeSeconds d ≤ wholeSeconds (-2000000) := wholeSeconds_mono h (by decide) hle
    rw [wholeSeconds_eq_tdiv (d := -2000000) (by decide)] at hmono
    have hcut : Int.tdiv (-2000000) 1000000 = -2 := by decide
    omega

end Duration

end PodTable
