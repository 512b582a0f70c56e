import Mathlib.Data.Rat.Floor
import Mathlib.Tactic.Linarith
import PodTable.Number.Rounding

/-!
# Rounding of quotients

Rounding to the nearest whole number is monotone in the quotient, so it stays between any two
whole numbers that the quotient lies between, and it depends on nothing but the quotient.
-/

namespace PodTable

variable {n d n' d' : Nat}

/-- A greater quotient with the same whole part has the greater fraction. -/
theorem mod_mul_le (h : n * d' ≤ n' * d) (hq : n / d = n' / d') :
  n % d * d' ≤ n' % d' * d
  := by
  have h₁ := Nat.div_add_mod n d
  have h₂ := Nat.div_add_mod n' d'
  rw [← hq] at h₂
  nlinarith

theorem div_le_div_of_mul_le (hd : 0 < d) (hd' : 0 < d') (h : n * d' ≤ n' * d) :
  n / d ≤ n' / d'
  := by
  rw [Nat.le_div_iff_mul_le hd']
  have := Nat.div_mul_le_self n d
  nlinarith

theorem roundHalfEven_mono (hd : 0 < d) (hd' : 0 < d') (h : n * d' ≤ n' * d) :
  roundHalfEven n d ≤ roundHalfEven n' d'
  := by
  have hle := div_le_div_of_mul_le hd hd' h
  rcases Nat.lt_or_ge (n / d) (n' / d') with hlt | hge
  · have h₁ := roundHalfEven_le_div_add_one n d
    have h₂ := div_le_roundHalfEven n' d'
    omega
  · have hq : n / d = n' / d' := by omega
    have hmod := mod_mul_le h hq
    unfold roundHalfEven
    split
    · split <;> omega
    · rename_i hup
      have hup' : ¬ (2 * (n' % d') < d' ∨ 2 * (n' % d') = d' ∧ n' / d' % 2 = 0) := by
        rw [← hq]
        rintro (hlow | ⟨hhalf, heven⟩)
        · apply hup
          left
          nlinarith
        · apply hup
          rcases Nat.lt_or_ge (2 * (n % d)) d with hlow | hhigh
          · left
            exact hlow
          · right
            refine ⟨?_, heven⟩
            nlinarith
      rw [if_neg hup', hq]

theorem roundHalfEven_one (n : Nat) :
  roundHalfEven n 1 = n
  := by
  simpa using roundHalfEven_mul_left n 1 (by decide)

theorem roundHalfEven_le (hd : 0 < d) {m : Nat} (h : n ≤ m * d) :
  roundHalfEven n d ≤ m
  := by
  rw [← roundHalfEven_one m]
  apply roundHalfEven_mono hd (by decide)
  omega

/-- Rounding goes to a nearest whole number, and to an even one from a half. -/
theorem roundHalfEven_spec (n : ℕ) (hd : 0 < d) :
  |(roundHalfEven n d : ℚ) - n / d| ≤ 1 / 2
    ∧ (|(roundHalfEven n d : ℚ) - n / d| = 1 / 2 → Even (roundHalfEven n d))
  := by
  have hpos : (0 : ℚ) < d := by exact_mod_cast hd
  have hfraction : (n % d : ℕ) / (d : ℚ) < 1 := by
    rw [div_lt_one hpos]
    exact_mod_cast Nat.mod_lt n hd
  have hquotient : (n : ℚ) / d = (n / d : ℕ) + (n % d : ℕ) / d := by
    rw [eq_comm, ← mul_left_inj' hpos.ne', add_mul, div_mul_cancel₀ _ hpos.ne',
      div_mul_cancel₀ _ hpos.ne']
    exact_mod_cast Nat.div_add_mod' n d
  have hdown : |((n / d : ℕ) : ℚ) - n / d| = (n % d : ℕ) / d := by
    rw [hquotient, sub_add_cancel_left, abs_neg, abs_of_nonneg (by positivity)]
  have hup : |((n / d + 1 : ℕ) : ℚ) - n / d| = 1 - (n % d : ℕ) / d := by
    rw [hquotient, Nat.cast_succ, add_sub_add_left_eq_sub, abs_of_nonneg (by linarith)]
  rcases lt_trichotomy (2 * (n % d)) d with hlt | heq | hgt
  · have hhalf : (n % d : ℕ) / (d : ℚ) < 1 / 2 := by
      rw [div_lt_div_iff₀ hpos (by norm_num)]
      exact_mod_cast (by omega)
    rw [roundHalfEven, if_pos (.inl hlt), hdown]
    exact ⟨hhalf.le, fun h => absurd h hhalf.ne⟩
  · have hhalf : (n % d : ℕ) / (d : ℚ) = 1 / 2 := by
      rw [div_eq_div_iff hpos.ne' (by norm_num)]
      exact_mod_cast (by omega)
    unfold roundHalfEven
    split
    · rename_i heven
      rw [hdown, hhalf, Nat.even_iff]
      exact ⟨le_rfl, fun _ => by omega⟩
    · rename_i hodd
      rw [hup, hhalf, Nat.even_iff]
      exact ⟨by norm_num, fun _ => by omega⟩
  · have hhalf : 1 / 2 < (n % d : ℕ) / (d : ℚ) := by
      rw [div_lt_div_iff₀ (by norm_num) hpos]
      exact_mod_cast (by omega)
    rw [roundHalfEven, if_neg (by omega), hup]
    exact ⟨by linarith, fun h => by linarith⟩

/-- Rounding up a quotient of natural numbers is the ceiling. -/
theorem ceil_eq_ceilQuotient (n : Nat) (hd : 0 < d) :
  ⌈(n : ℚ) / d⌉ = ceilQuotient n d
  := by
  have hle : (n : ℚ) ≤ ceilQuotient n d * d := by exact_mod_cast le_ceilQuotient_mul n d hd
  have hlt : (ceilQuotient n d : ℚ) * d < n + d := by
    have := Nat.div_mul_le_self (n + (d - 1)) d
    unfold ceilQuotient
    exact_mod_cast (by omega)
  have hpos : (0 : ℚ) < d := by exact_mod_cast hd
  rw [Int.ceil_eq_iff]
  constructor
  · rw [lt_div_iff₀ hpos]
    push_cast
    linarith
  · rw [div_le_iff₀ hpos]
    push_cast
    linarith

end PodTable
