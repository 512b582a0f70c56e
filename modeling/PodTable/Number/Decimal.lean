import PodTable.Text.Numeral

/-!
# Decimal numbers

A decimal number is a coefficient scaled by a power of ten, with a sign of its own. Two decimal
numbers may have the same value and differ in exponent, so `1.5` and `1.50` are different, and
zero has a sign.

`Decimal.text` writes every digit of the coefficient. The point is placed inside or in front of
the digits when the exponent is not positive and at most five zeros have to be added after the
point, otherwise one digit stands before the point and a power of ten follows.
-/

namespace PodTable

/-- The number `± coefficient * 10 ^ exponent`. -/
structure Decimal where
  negative : Bool
  coefficient : Nat
  exponent : Int
deriving DecidableEq, Repr

namespace Decimal

/-- The whole number `i`. -/
def ofInt (i : Int) : Decimal := ⟨decide (i < 0), i.natAbs, 0⟩

/-- The exponent of the leading digit. -/
def adjusted (d : Decimal) : Int := d.exponent + Text.width d.coefficient - 1

/-- The product of `d` with `coefficient * 10 ^ exponent`, without rounding. -/
def scale (d : Decimal) (coefficient : Nat) (exponent : Int) : Decimal :=
  ⟨d.negative, d.coefficient * coefficient, d.exponent + exponent⟩

/-- The digits `cs` with a point after the first `n` of them. -/
def pointed (n : Nat) (cs : List Char) : List Char :=
  if n < cs.length then cs.take n ++ '.' :: cs.drop n else cs

/-- A power of ten, with its sign. -/
def power (e : Int) : List Char :=
  'E' :: (if e < 0 then '-' else '+') :: Text.digits e.natAbs

/-- The text of a decimal number without its sign. -/
def magnitudeText (d : Decimal) : List Char :=
  let cs := Text.digits d.coefficient
  if d.exponent ≤ 0 ∧ -6 ≤ d.adjusted then
    let places := d.exponent.natAbs
    pointed (max cs.length (places + 1) - places) (Text.zeroPad (places + 1) cs)
  else
    pointed 1 cs ++ power d.adjusted

/-- The text of a decimal number. -/
def text (d : Decimal) : String :=
  String.ofList (if d.negative then '-' :: d.magnitudeText else d.magnitudeText)

end Decimal

end PodTable
