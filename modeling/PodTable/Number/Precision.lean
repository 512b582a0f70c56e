import PodTable.Number.Decimal
import PodTable.Number.Rounding

/-!
# Decimal arithmetic of limited precision

A `Precision` limits the number of digits of a coefficient and the exponent of the leading
digit. `Precision.fit` brings an exact decimal number within the limits: digits beyond the
precision, or below the least exponent, are rounded half to even, and a number too large is
refused. Zero keeps its sign and has its exponent moved to the nearest one allowed.
-/

namespace PodTable

-- Powers are those of natural numbers, whatever other instances a module imports.
attribute [local instance (2000)] instPowNat

/-- The limits of decimal arithmetic. -/
structure Precision where
  digits : Nat
  maxExponent : Int
  minExponent : Int
  digits_pos : 0 < digits
  minExponent_le : minExponent ≤ maxExponent

namespace Precision

/-- Twenty-eight digits, with exponents between `-999999` and `999999`. -/
def standard : Precision := ⟨28, 999999, -999999, by decide, by decide⟩

/-- The exponent of the smallest number different from zero. -/
def tiny (p : Precision) : Int := p.minExponent - p.digits + 1

/-- The least exponent that a rounding of `d` may have. -/
def lowestExponent (p : Precision) (d : Decimal) : Int :=
  max p.tiny (d.adjusted - p.digits + 1)

/-- The coefficient `n` without its last `drop` digits, rounded half to even. -/
def dropDigits (n drop : Nat) : Nat :=
  if Text.width n < drop then 0 else roundHalfEven n (10 ^ drop)

/-- The number `d` rounded to the precision, before the check of its size. A rounding that
carries into one digit too many is a power of ten, whose last zero moves to the exponent. -/
def round (p : Precision) (d : Decimal) : Decimal :=
  let low := p.lowestExponent d
  if low ≤ d.exponent then d
  else
    let n := dropDigits d.coefficient (low - d.exponent).toNat
    if p.digits < Text.width n then ⟨d.negative, n / 10, low + 1⟩ else ⟨d.negative, n, low⟩

/-- The number `d` within the limits of `p`, unless it is too large. -/
def fit (p : Precision) (d : Decimal) : Option Decimal :=
  if d.coefficient = 0 then
    some { d with exponent := max p.tiny (min p.maxExponent d.exponent) }
  else
    let r := p.round d
    if r.adjusted ≤ p.maxExponent then some r else none

/-- The largest power of ten, in absolute value, that `shift` moves the point by. -/
def maxShift (p : Precision) : Int := 2 * (p.maxExponent + p.digits)

/-- The number `d * 10 ^ n` within the limits of `p`. -/
def shift (p : Precision) (d : Decimal) (n : Int) : Option Decimal :=
  if n.natAbs ≤ p.maxShift then p.fit { d with exponent := d.exponent + n } else none

/-- The number `d * coefficient * 10 ^ exponent` within the limits of `p`. -/
def multiply (p : Precision) (d : Decimal) (coefficient : Nat) (exponent : Int) :
    Option Decimal :=
  p.fit (d.scale coefficient exponent)

end Precision

end PodTable
