import Mathlib.Tactic.Common

/-!
# Outcomes

A reading that may fail has a value exactly when each of its steps has one.
-/

namespace PodTable

namespace Outcome

variable {ε ε' α β : Type} {x : Except ε α}

/-- Two steps have a value when the first one has a value from which the second one has it. -/
theorem bind_eq_ok_iff {k : α → Except ε β} {b : β} :
  x >>= k = .ok b ↔ ∃ a, x = .ok a ∧ k a = .ok b
  := by
  cases x <;> simp [Bind.bind, Except.bind]

theorem map_eq_ok_iff {f : α → β} {b : β} :
  x.map f = .ok b ↔ ∃ a, x = .ok a ∧ f a = b
  := by
  cases x <;> simp [Except.map]

theorem mapError_eq_ok_iff {f : ε → ε'} {a : α} :
  x.mapError f = .ok a ↔ x = .ok a
  := by
  cases x <;> simp [Except.mapError]

theorem toOption_eq_some_iff {a : α} :
  x.toOption = some a ↔ x = .ok a
  := by
  cases x <;> simp [Except.toOption]

end Outcome

end PodTable
