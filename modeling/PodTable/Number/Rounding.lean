/-!
# Rounding to whole numbers

`roundHalfEven` takes a quotient to the nearest whole number, a half to the even neighbour.
`ceilQuotient` takes it to the next whole number above.
-/

namespace PodTable

/-- The whole number nearest to `n / d`, the even one of two nearest. -/
def roundHalfEven (n d : Nat) : Nat :=
  if 2 * (n % d) < d ∨ (2 * (n % d) = d ∧ n / d % 2 = 0) then n / d else n / d + 1

/-- The least whole number that is at least `n / d`. -/
def ceilQuotient (n d : Nat) : Nat := (n + (d - 1)) / d

theorem div_le_roundHalfEven (n d : Nat) :
  n / d ≤ roundHalfEven n d
  := by
  unfold roundHalfEven
  split <;> omega

theorem roundHalfEven_le_div_add_one (n d : Nat) :
  roundHalfEven n d ≤ n / d + 1
  := by
  unfold roundHalfEven
  split <;> omega

/-- A whole quotient is its own rounding. -/
theorem roundHalfEven_mul_left (n d : Nat) (h : 0 < d) :
  roundHalfEven (d * n) d = n
  := by
  simp [roundHalfEven, h]

theorem le_ceilQuotient_mul (n d : Nat) (h : 0 < d) :
  n ≤ ceilQuotient n d * d
  := by
  unfold ceilQuotient
  have h₁ := Nat.div_add_mod (n + (d - 1)) d
  have h₂ := Nat.mod_lt (n + (d - 1)) h
  rw [Nat.mul_comm] at h₁
  omega

end PodTable
