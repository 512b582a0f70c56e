import Mathlib.Algebra.Order.Field.Power
import Mathlib.Data.Rat.Floor
import Mathlib.Tactic.Linarith
import Mathlib.Tactic.Positivity
import PodTable.Number.Binary64
import PodTable.Proofs.Number.Rounding

/-!
# Rounding of quotients to magnitudes

The magnitude nearest to a quotient is a multiple of a power of two, the place of the last bit of the
significand, which is found from the binary order of the quotient. Rounding at one place is monotone,
and where the places are different a power of two lies between the quotients, so rounding to
magnitudes is monotone.
-/

namespace PodTable

theorem roundHalfEven_le_of_lt {n d m : ℕ} (hd : 0 < d) (h : 2 * n < (2 * m + 1) * d) :
  roundHalfEven n d ≤ m
  := by
  rcases Nat.lt_or_ge (n / d) m with hlt | hge
  · apply le_trans (roundHalfEven_le_div_add_one n d)
    exact hlt
  · have hmul := Nat.div_add_mod n d
    have hle := Nat.mul_le_mul_right d hge
    have hlow : 2 * (n % d) < d := by
      rw [Nat.mul_comm] at hmul
      linarith
    have hquotient : n / d ≤ m := by
      rw [← Nat.lt_succ_iff, Nat.div_lt_iff_lt_mul hd]
      linarith
    rw [roundHalfEven, if_pos (.inl hlow)]
    exact hquotient

namespace Magnitude

variable {n d n' d' m : ℕ} {e : ℤ} {x y : Magnitude}

/-- The value of a magnitude. -/
def toRat (x : Magnitude) : ℚ := x.significand * 2 ^ x.exponent

/-- The quotient of the two powers is the power to the difference. -/
theorem two_pow_toNat_div (e : ℤ) :
  (2 : ℚ) ^ e.toNat / 2 ^ (-e).toNat = 2 ^ e
  := by
  rw [← zpow_natCast, ← zpow_natCast, ← zpow_sub₀ (by norm_num)]
  congr 1
  omega

theorem numerator_div_denominator (x : Magnitude) :
  (x.numerator : ℚ) / x.denominator = x.toRat
  := by
  unfold numerator denominator toRat
  push_cast
  rw [mul_div_assoc, two_pow_toNat_div]

/-- The whole part of a magnitude is that of its value. -/
theorem floor_eq (x : Magnitude) :
  x.floor = ⌊x.toRat⌋₊
  := by
  rw [← numerator_div_denominator, Rat.natFloor_natCast_div_natCast]
  rfl

/-! ### The binary order -/

/-- A quotient lies between the power of two of its binary order and the next one. -/
theorem binaryOrder_spec (hn : n ≠ 0) (hd : d ≠ 0) :
  2 ^ binaryOrder n d ≤ (n : ℚ) / d ∧ (n : ℚ) / d < 2 ^ (binaryOrder n d + 1)
  := by
  have hpos : (0 : ℚ) < d := by exact_mod_cast Nat.pos_of_ne_zero hd
  have hn₁ : (2 : ℚ) ^ (n.log2 : ℤ) ≤ n := by exact_mod_cast Nat.log2_self_le hn
  have hn₂ : (n : ℚ) < 2 ^ ((n.log2 : ℤ) + 1) := by exact_mod_cast Nat.lt_log2_self (n := n)
  have hd₁ : (2 : ℚ) ^ (d.log2 : ℤ) ≤ d := by exact_mod_cast Nat.log2_self_le hd
  have hd₂ : (d : ℚ) < 2 ^ ((d.log2 : ℤ) + 1) := by exact_mod_cast Nat.lt_log2_self (n := d)
  set e : ℤ := (n.log2 : ℤ) - d.log2
  have hlow : (2 : ℚ) ^ (e - 1) ≤ n / d := by
    have hexp : e - 1 = n.log2 - (d.log2 + 1) := by omega
    rw [hexp, zpow_sub₀ (by norm_num)]
    apply div_le_div₀ (by positivity) hn₁ hpos hd₂.le
  have hhigh : (n : ℚ) / d < 2 ^ (e + 1) := by
    have hexp : e + 1 = (n.log2 + 1) - d.log2 := by omega
    rw [hexp, zpow_sub₀ (by norm_num)]
    apply div_lt_div₀ hn₂ hd₁ (by positivity) (by positivity)
  have hsplit : d * 2 ^ e.toNat ≤ n * 2 ^ (-e).toNat ↔ (2 : ℚ) ^ e ≤ n / d := by
    rw [← two_pow_toNat_div, div_le_div_iff₀ (by positivity) hpos, mul_comm _ (d : ℚ)]
    norm_cast
  unfold binaryOrder
  simp only
  split
  · rename_i hle
    exact ⟨hsplit.mp hle, hhigh⟩
  · rename_i hlt
    refine ⟨hlow, ?_⟩
    rw [hsplit, not_le] at hlt
    rwa [Int.sub_add_cancel]

/-- A quotient below a power of two has a lesser binary order. -/
theorem binaryOrder_lt (hn : n ≠ 0) (hd : d ≠ 0) (h : (n : ℚ) / d < 2 ^ e) :
  binaryOrder n d < e
  := by
  have hlt := lt_of_le_of_lt (binaryOrder_spec hn hd).1 h
  rwa [zpow_lt_zpow_iff_right₀ (by norm_num)] at hlt

/-! ### Places -/

/-- The whole number nearest to `n / d / 2 ^ e`, the even one of two nearest. -/
def nearestAt (n d : ℕ) (e : ℤ) : ℕ := roundHalfEven (n * 2 ^ (-e).toNat) (d * 2 ^ e.toNat)

/-- The exponent of the last bit of the significand nearest to `n / d`. -/
def lastPlace (n d : ℕ) : ℤ := max (-1074) (binaryOrder n d - 52)

theorem nearestAt_mono (hd : 0 < d) (hd' : 0 < d') (e : ℤ) (h : (n : ℚ) / d ≤ n' / d') :
  nearestAt n d e ≤ nearestAt n' d' e
  := by
  rw [div_le_div_iff₀ (by exact_mod_cast hd) (by exact_mod_cast hd')] at h
  have hcross : n * d' ≤ n' * d := by exact_mod_cast h
  apply roundHalfEven_mono (by positivity) (by positivity)
  calc n * 2 ^ (-e).toNat * (d' * 2 ^ e.toNat)
      = n * d' * (2 ^ (-e).toNat * 2 ^ e.toNat) := by ring
    _ ≤ n' * d * (2 ^ (-e).toNat * 2 ^ e.toNat) := Nat.mul_le_mul_right _ hcross
    _ = n' * 2 ^ (-e).toNat * (d * 2 ^ e.toNat) := by ring

/-- A multiple of a power of two is rounded to itself at this power. -/
theorem nearestAt_mul_pow (m : ℕ) (e : ℤ) :
  nearestAt (m * 2 ^ e.toNat) (2 ^ (-e).toNat) e = m
  := by
  have hswap : m * 2 ^ e.toNat * 2 ^ (-e).toNat = 2 ^ (-e).toNat * 2 ^ e.toNat * m := by ring
  rw [nearestAt, hswap]
  apply roundHalfEven_mul_left _ _ (by positivity)

theorem mul_pow_div (m : ℕ) (e : ℤ) :
  ((m * 2 ^ e.toNat : ℕ) : ℚ) / (2 ^ (-e).toNat : ℕ) = m * 2 ^ e
  := by
  push_cast
  rw [mul_div_assoc, two_pow_toNat_div]

theorem nearestAt_le (hd : 0 < d) (h : (n : ℚ) / d ≤ m * 2 ^ e) :
  nearestAt n d e ≤ m
  := by
  rw [← mul_pow_div] at h
  rw [← nearestAt_mul_pow m e]
  apply nearestAt_mono hd (by positivity) e h

theorem le_nearestAt (hd : 0 < d) (h : m * 2 ^ e ≤ (n : ℚ) / d) :
  m ≤ nearestAt n d e
  := by
  rw [← mul_pow_div] at h
  rw [← nearestAt_mul_pow m e]
  apply nearestAt_mono (by positivity) hd e h

/-- A rounding has at most one bit too many, in a power of two. -/
theorem nearestAt_lastPlace_le (hn : n ≠ 0) (hd : 0 < d) :
  nearestAt n d (lastPlace n d) ≤ 2 ^ 53
  := by
  apply nearestAt_le hd
  apply le_trans (binaryOrder_spec hn hd.ne').2.le
  rw [Nat.cast_pow, Nat.cast_ofNat, ← zpow_natCast, ← zpow_add₀ (by norm_num)]
  apply zpow_le_zpow_right₀ (by norm_num)
  unfold lastPlace
  omega

/-- A rounding has its highest bit set, unless the place is the least one. -/
theorem le_nearestAt_lastPlace (hn : n ≠ 0) (hd : 0 < d) (h : -1074 < lastPlace n d) :
  2 ^ 52 ≤ nearestAt n d (lastPlace n d)
  := by
  apply le_nearestAt hd
  apply le_trans _ (binaryOrder_spec hn hd.ne').1
  rw [Nat.cast_pow, Nat.cast_ofNat, ← zpow_natCast, ← zpow_add₀ (by norm_num)]
  apply zpow_le_zpow_right₀ (by norm_num)
  unfold lastPlace at h ⊢
  omega

theorem make?_eq_some (h : make? m e = some x) :
  x.toRat = m * 2 ^ e
  := by
  unfold make? at h
  split at h
  · obtain rfl := Option.some.inj h
    rfl
  · cases h

/-- A rounding that carries into one bit too many is a power of two at the next place. -/
theorem ofRatio?_eq (hn : n ≠ 0) (d : ℕ) :
  ofRatio? n d =
    if nearestAt n d (lastPlace n d) = 2 ^ 53 then make? (2 ^ 52) (lastPlace n d + 1)
    else make? (nearestAt n d (lastPlace n d)) (lastPlace n d)
  := if_neg hn

/-- The magnitude nearest to a quotient is the rounding at its place. -/
theorem toRat_of_ofRatio? (hn : n ≠ 0) (h : ofRatio? n d = some x) :
  x.toRat = nearestAt n d (lastPlace n d) * 2 ^ lastPlace n d
  := by
  rw [ofRatio?_eq hn] at h
  split at h
  · rename_i hcarry
    rw [make?_eq_some h, hcarry, zpow_add₀ (by norm_num)]
    push_cast
    ring
  · exact make?_eq_some h

/-- There is a magnitude nearest to every quotient that is not too large. -/
theorem exists_ofRatio? (hd : 0 < d) (h : (n : ℚ) / d < 2 ^ (1023 : ℤ)) :
  ∃ x, ofRatio? n d = some x
  := by
  by_cases hn : n = 0
  · exact ⟨zero, if_pos hn⟩
  have horder := binaryOrder_lt hn hd.ne' h
  have hle := nearestAt_lastPlace_le hn hd
  have hplace : -1074 ≤ lastPlace n d ∧ lastPlace n d + 1 ≤ 971 := by
    unfold lastPlace
    omega
  rw [ofRatio?_eq hn]
  split
  · rw [make?, dif_pos (by refine ⟨?_, ?_, ?_, .inl ?_⟩ <;> omega)]
    exact ⟨_, rfl⟩
  · rename_i hcarry
    have hbit := le_nearestAt_lastPlace hn hd
    rw [make?, dif_pos (by refine ⟨?_, ?_, ?_, ?_⟩ <;> omega)]
    exact ⟨_, rfl⟩

/-- Rounding to magnitudes is monotone. -/
theorem ofRatio?_mono (hd : 0 < d) (hd' : 0 < d') (h : (n : ℚ) / d ≤ n' / d')
    (hx : ofRatio? n d = some x) (hy : ofRatio? n' d' = some y) :
  x.toRat ≤ y.toRat
  := by
  by_cases hn : n = 0
  · rw [hn, ofRatio?, if_pos rfl] at hx
    obtain rfl := Option.some.inj hx
    have hzero : zero.toRat = 0 := by simp [toRat, zero]
    rw [hzero, toRat]
    positivity
  have hn' : n' ≠ 0 := by
    rintro rfl
    rw [Nat.cast_zero, zero_div] at h
    have : (0 : ℚ) < n / d := by positivity
    linarith
  rw [toRat_of_ofRatio? hn hx, toRat_of_ofRatio? hn' hy]
  have horder : binaryOrder n d < binaryOrder n' d' + 1 := by
    apply binaryOrder_lt hn hd.ne'
    apply lt_of_le_of_lt h (binaryOrder_spec hn' hd'.ne').2
  have hplace : lastPlace n d ≤ lastPlace n' d' := by
    unfold lastPlace
    omega
  rcases hplace.eq_or_lt with heq | hlt
  · rw [heq]
    apply mul_le_mul_of_nonneg_right _ (by positivity)
    exact_mod_cast nearestAt_mono hd hd' _ h
  · -- The power of two of the greater order is a multiple at both places.
    obtain ⟨k, hk⟩ := Int.eq_ofNat_of_zero_le (Int.sub_nonneg_of_le hlt.le)
    have hmiddle : ((2 ^ (52 + k) : ℕ) : ℚ) * 2 ^ lastPlace n d = 2 ^ 52 * 2 ^ lastPlace n' d' := by
      push_cast
      rw [← zpow_natCast, ← zpow_natCast, ← zpow_add₀ (by norm_num), ← zpow_add₀ (by norm_num)]
      congr 1
      push_cast
      omega
    calc (nearestAt n d (lastPlace n d) : ℚ) * 2 ^ lastPlace n d
        ≤ (2 ^ (52 + k) : ℕ) * 2 ^ lastPlace n d := by
          apply mul_le_mul_of_nonneg_right _ (by positivity)
          have hle : nearestAt n d (lastPlace n d) ≤ 2 ^ (52 + k) := by
            apply nearestAt_le hd
            apply le_trans (binaryOrder_spec hn hd.ne').2.le
            rw [hmiddle, ← zpow_natCast, ← zpow_add₀ (by norm_num)]
            apply zpow_le_zpow_right₀ (by norm_num)
            unfold lastPlace at hlt ⊢
            omega
          exact_mod_cast hle
      _ = 2 ^ 52 * 2 ^ lastPlace n' d' := hmiddle
      _ ≤ nearestAt n' d' (lastPlace n' d') * 2 ^ lastPlace n' d' := by
          apply mul_le_mul_of_nonneg_right _ (by positivity)
          have hge := le_nearestAt_lastPlace hn' hd' (by unfold lastPlace at hlt ⊢; omega)
          exact_mod_cast hge

end Magnitude

end PodTable
