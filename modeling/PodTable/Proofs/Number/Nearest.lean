import Mathlib.Tactic.LinearCombination
import PodTable.Proofs.Number.Precision

/-!
# Nearest values

Rounding to a precision goes to the nearest of the values that the precision holds, and of two
nearest to the even one. `IsNearestEven` says so of any set of values, without reference to how a
value is written: two nearest values are neighbours, and one of them is an even multiple of the
distance between them. There is at most one nearest value in this sense.

For a number that is not among the smallest, the value is also the nearest one of all those of few
enough digits.
-/

namespace PodTable

/-- Of the values with the property `P`, `y` is nearest to `x`. Where another one is as near, `y`
is an even multiple of the distance between the two. -/
structure IsNearestEven (P : ℚ → Prop) (x y : ℚ) : Prop where
  mem : P y
  le : ∀ z, P z → |y - x| ≤ |z - x|
  even : ∀ z, P z → |z - x| = |y - x| → z ≠ y → ∃ a : ℤ, y = 2 * a * (z - y)

namespace IsNearestEven

variable {P Q : ℚ → Prop} {x y z : ℚ}

/-- There is at most one nearest value. Of two, each would be an even multiple of their distance,
so the distance itself would be one. -/
theorem unique (hy : IsNearestEven P x y) (hz : IsNearestEven P x z) :
  y = z
  := by
  by_contra hne
  have hdist : |z - x| = |y - x| := le_antisymm (hz.le y hy.mem) (hy.le z hz.mem)
  obtain ⟨a, ha⟩ := hy.even z hz.mem hdist (Ne.symm hne)
  obtain ⟨b, hb⟩ := hz.even y hy.mem hdist.symm hne
  have hzero : (2 * (a + b) + 1 : ℚ) * (z - y) = 0 := by linear_combination hb - ha
  rcases mul_eq_zero.mp hzero with hodd | hsub
  · have : 2 * (a + b) + 1 = 0 := by exact_mod_cast hodd
    omega
  · exact hne (sub_eq_zero.mp hsub).symm

/-- A value with the property is nearest to itself. -/
theorem refl (hx : P x) :
  IsNearestEven P x x
  where
  mem := hx
  le z _ := by simp
  even z _ hdist hne := by
    rw [sub_self, abs_zero, abs_eq_zero, sub_eq_zero] at hdist
    contradiction

/-- Nearest values are found on either side of zero in the same way. -/
theorem neg (hP : ∀ z, P z → P (-z)) (h : IsNearestEven P x y) :
  IsNearestEven P (-x) (-y)
  := by
  have habs (z : ℚ) : |z - -x| = |-z - x| := by
    rw [← abs_neg]
    ring_nf
  constructor
  · exact hP y h.mem
  · intro z hz
    rw [habs, habs, neg_neg]
    exact h.le (-z) (hP z hz)
  · intro z hz hdist hne
    rw [habs, habs, neg_neg] at hdist
    obtain ⟨a, ha⟩ := h.even (-z) (hP z hz) hdist (by simpa [neg_eq_iff_eq_neg] using hne)
    use a
    linear_combination -ha

/-- A nearest value stays nearest among other values, of which all the new ones are farther
away. -/
theorem of_farther (h : IsNearestEven Q x y) (hy : P y)
    (hfar : ∀ z, P z → Q z ∨ |y - x| < |z - x|) :
  IsNearestEven P x y
  := by
  constructor
  · exact hy
  · intro z hz
    rcases hfar z hz with hQ | hlt
    · exact h.le z hQ
    · exact hlt.le
  · intro z hz hdist hne
    rcases hfar z hz with hQ | hlt
    · exact h.even z hQ hdist hne
    · exact absurd hdist hlt.ne'

/-- Where `c` lies between zero and `x`, on either side of zero, everything nearer to zero than `c`
is farther away from `x` than the nearest value. -/
theorem lt_of_abs_lt {c : ℚ} (h : IsNearestEven P x y) (hc : P c) (hneg : P (-c)) (hx : c ≤ |x|)
    (hz : |z| < c) :
  |y - x| < |z - x|
  := by
  have hle : |y - x| ≤ |x| - c := by
    rcases abs_cases x with ⟨habs, -⟩ | ⟨habs, -⟩
    · rw [habs] at hx ⊢
      rw [← abs_of_nonneg (sub_nonneg.mpr hx), abs_sub_comm x]
      exact h.le c hc
    · rw [habs] at hx ⊢
      have hsub : -x - c = -c - x := by ring
      rw [hsub, ← abs_of_nonneg (a := -c - x) (by linarith)]
      exact h.le (-c) hneg
  have hge : |x| - |z| ≤ |z - x| := by
    rw [abs_sub_comm]
    exact abs_sub_abs_le_abs_sub x z
  linarith

/-- The nearest whole multiple of `u`. -/
theorem of_multiple {u : ℚ} (hu : 0 < u) {n : ℤ} (hn : |n - x / u| ≤ 1 / 2)
    (heven : |n - x / u| = 1 / 2 → Even n) :
  IsNearestEven (fun z => ∃ k : ℤ, z = k * u) x (n * u)
  := by
  have habs (k : ℤ) : |k * u - x| = |k - x / u| * u := by
    rw [← abs_of_pos hu, ← abs_mul, abs_of_pos hu, sub_mul, div_mul_cancel₀ _ hu.ne']
  -- Two whole numbers are at least one apart, so the other one is at least a half away.
  have hgap (k : ℤ) (hk : k ≠ n) : 1 ≤ |(k : ℚ) - n| := by
    rw [← Int.cast_sub, ← Int.cast_abs]
    exact_mod_cast Int.one_le_abs (sub_ne_zero.mpr hk)
  have htriangle (k : ℤ) : |(k : ℚ) - n| ≤ |k - x / u| + |n - x / u| := by
    rw [abs_sub_comm (n : ℚ)]
    exact abs_sub_le _ _ _
  constructor
  · exact ⟨n, rfl⟩
  · rintro z ⟨k, rfl⟩
    rw [habs, habs]
    apply mul_le_mul_of_nonneg_right _ hu.le
    by_cases hk : k = n
    · rw [hk]
    · linarith [hgap k hk, htriangle k]
  · rintro z ⟨k, rfl⟩ hdist hne
    have hk : k ≠ n := by
      rintro rfl
      exact hne rfl
    rw [habs, habs, mul_left_inj' hu.ne'] at hdist
    have hhalf : |n - x / u| = 1 / 2 := by linarith [hgap k hk, htriangle k]
    have hone : |(k : ℚ) - n| = 1 := by linarith [hgap k hk, htriangle k]
    obtain ⟨a, rfl⟩ := heven hhalf
    rcases eq_or_eq_neg_of_abs_eq hone with hsub | hsub
    · use a
      push_cast at hsub ⊢
      linear_combination -2 * a * u * hsub
    · use -a
      push_cast at hsub ⊢
      linear_combination 2 * a * u * hsub

end IsNearestEven

/-! ### Roundings -/

namespace Precision

variable {p : Precision} {d : Decimal} {x y : ℚ}

/-- The rounding at an exponent is the nearest multiple of its power of ten. -/
theorem isNearestEven_nearestAt (d : Decimal) (low : ℤ) :
  IsNearestEven (fun z => ∃ k : ℤ, z = k * 10 ^ low) d.size (d.nearestAt low * 10 ^ low)
  := by
  obtain ⟨hle, heven⟩ := roundHalfEven_spec (d.coefficient * 10 ^ (d.exponent - low).toNat)
    (d := 10 ^ (low - d.exponent).toNat) (by positivity)
  rw [Decimal.quotient_eq] at hle heven
  have h := IsNearestEven.of_multiple (x := d.size) (u := 10 ^ low) (n := d.nearestAt low)
    (by positivity) (by exact_mod_cast hle)
  rw [Int.cast_natCast] at h
  apply h
  intro hhalf
  exact (Int.even_coe_nat _).mpr (heven hhalf)

/-- A power of ten is a multiple of every lesser one. -/
theorem exists_eq_mul_zpow {low e : ℤ} (h : low ≤ e) :
  ∃ k : ℤ, (10 : ℚ) ^ e = k * 10 ^ low
  := by
  use 10 ^ (e - low).toNat
  have hsub : ((e - low).toNat : ℤ) = e - low := by omega
  push_cast
  rw [← zpow_natCast, hsub, ← zpow_add₀ (by norm_num), Int.sub_add_cancel]

/-- A value that the precision holds has no digits below the lowest exponent of `d`, unless it is
below the power of ten of the leading digit of `d`. -/
theorem Holds.multiple_or_lt (h : p.Holds x) (d : Decimal) :
  (∃ k : ℤ, x = k * 10 ^ p.lowestExponent d)
    ∨ p.lowestExponent d ≤ d.adjusted ∧ |x| < 10 ^ d.adjusted
  := by
  obtain ⟨m, e, hm, he, rfl⟩ := h
  rcases le_or_gt (p.lowestExponent d) e with hle | hlt
  · left
    obtain ⟨k, hk⟩ := exists_eq_mul_zpow hle
    use m * k
    rw [hk, Int.cast_mul, mul_assoc]
  · right
    have hdigits := p.digits_pos
    have htop : p.lowestExponent d = d.adjusted - p.digits + 1 := by
      unfold lowestExponent at hlt ⊢
      omega
    refine ⟨by omega, ?_⟩
    have hcast : |(m : ℚ)| < 10 ^ p.digits := by exact_mod_cast hm
    calc |(m : ℚ) * 10 ^ e|
        = |(m : ℚ)| * 10 ^ e := by rw [abs_mul, abs_of_pos (by positivity : (0 : ℚ) < 10 ^ e)]
      _ < 10 ^ p.digits * 10 ^ e := mul_lt_mul_of_pos_right hcast (by positivity)
      _ = 10 ^ (p.digits + e) := by rw [zpow_add₀ (by norm_num), zpow_natCast]
      _ ≤ 10 ^ d.adjusted := zpow_le_zpow_right₀ (by norm_num) (by omega)

theorem isNearestEven_size_round (p : Precision) (d : Decimal) :
  IsNearestEven p.Holds d.size (p.round d).size
  := by
  have hholds : p.Holds (p.round d).size := by
    rw [← Decimal.abs_toRat]
    rcases abs_choice (p.round d).toRat with habs | habs <;> rw [habs]
    · exact holds_round d
    · exact (holds_round d).neg
  by_cases hd : d.coefficient = 0
  · rw [p.size_round_of_zero hd] at hholds ⊢
    rw [Decimal.size_eq_zero_iff.mpr hd]
    exact IsNearestEven.refl hholds
  have hnearest := isNearestEven_nearestAt d (p.lowestExponent d)
  rw [← (p.round_spec d).2.1] at hnearest
  apply hnearest.of_farther hholds
  intro z hz
  rcases hz.multiple_or_lt d with hmultiple | ⟨hlow, hlt⟩
  · left
    exact hmultiple
  · right
    obtain ⟨k, hk⟩ := exists_eq_mul_zpow hlow
    apply hnearest.lt_of_abs_lt ⟨k, hk⟩ ⟨-k, by rw [hk]; push_cast; ring⟩ _ hlt
    rw [abs_of_nonneg d.size_nonneg]
    exact Decimal.le_size hd

/-- Rounding goes to the nearest value that the precision holds, the even one of two nearest. -/
theorem isNearestEven_round (p : Precision) (d : Decimal) :
  IsNearestEven p.Holds d.toRat (p.round d).toRat
  := by
  have h := isNearestEven_size_round p d
  unfold Decimal.toRat
  rw [(p.round_spec d).1]
  split
  · exact h.neg fun _ hz => hz.neg
  · exact h

/-- Where `x` is not among the smallest, the nearest value that the precision holds is the nearest
one of few enough digits. -/
theorem IsNormal.isNearestEven (hx : p.IsNormal x) (h : IsNearestEven p.Holds x y) :
  IsNearestEven (HasDigits p.digits) x y
  := by
  apply h.of_farther h.mem.hasDigits
  intro z hz
  by_cases hnormal : p.IsNormal z
  · left
    exact hnormal.holds hz
  · right
    simp only [IsNormal, not_or, not_le] at hnormal
    obtain ⟨hne, hlt⟩ := hnormal
    rcases hx with rfl | hle
    · have hzero : |y - 0| ≤ |(0 : ℚ) - 0| := h.le 0 holds_zero
      rw [sub_self, abs_zero, sub_zero] at hzero
      rw [sub_zero, sub_zero]
      exact lt_of_le_of_lt hzero (abs_pos.mpr hne)
    · have hpow : p.Holds (10 ^ p.minExponent) := holds_pow p.tiny_le_minExponent
      exact h.lt_of_abs_lt hpow hpow.neg hle hlt

/-- The numbers refused for their size are those for which the nearest value of few enough digits
is beyond the greatest exponent. -/
theorem fit_eq_none_iff_exists :
  p.fit d = none
    ↔ ∃ y, IsNearestEven (HasDigits p.digits) d.toRat y ∧ 10 ^ (p.maxExponent + 1) ≤ |y|
  := by
  have hmin := p.minExponent_le
  have hnearest := p.isNearestEven_round d
  rw [fit_eq_none_iff]
  constructor
  · intro hle
    refine ⟨_, ?_, hle⟩
    apply IsNormal.isNearestEven _ hnearest
    right
    by_contra hlt
    have hround := abs_round_le p.tiny_le_minExponent (le_of_lt (not_le.mp hlt))
    have hpow : (10 : ℚ) ^ p.minExponent < 10 ^ (p.maxExponent + 1) :=
      zpow_lt_zpow_right₀ (by norm_num) (by omega)
    linarith
  · rintro ⟨y, hy, hle⟩
    have hnormal : p.IsNormal y := by
      right
      apply le_trans _ hle
      exact zpow_le_zpow_right₀ (by norm_num) (by omega)
    have hheld : IsNearestEven p.Holds d.toRat y := by
      apply hy.of_farther (hnormal.holds hy.mem)
      intro z hz
      left
      exact hz.hasDigits
    rw [hnearest.unique hheld]
    exact hle

end Precision

end PodTable
