import PodTable.Number.Rounding
import PodTable.Text.Numeral

/-!
# Binary floating point numbers

A finite number is a sign and a magnitude `significand * 2 ^ exponent` of fifty-three bits. The
significand has its highest bit set unless the exponent is the least one, so every magnitude has
a single representation. `Magnitude.ofRatio?` rounds a quotient of natural numbers to the nearest
magnitude, a half to the even one, and `Binary64.ofDecimal` does so with a decimal number.
-/

namespace PodTable

-- Powers are those of natural numbers, whatever other instances a module imports.
attribute [local instance (2000)] instPowNat

/-- The absolute value of a finite binary floating point number. -/
structure Magnitude where
  significand : Nat
  exponent : Int
  significand_lt : significand < 2 ^ (53 : Nat)
  exponent_ge : -1074 ≤ exponent
  exponent_le : exponent ≤ 971
  canonical : 2 ^ (52 : Nat) ≤ significand ∨ exponent = -1074
deriving DecidableEq, Repr

/-- A binary floating point number of double precision. -/
inductive Binary64 where
  | finite (negative : Bool) (magnitude : Magnitude)
  | infinite (negative : Bool)
  | nan
deriving DecidableEq, Repr

namespace Magnitude

/-- The magnitude zero. -/
def zero : Magnitude := ⟨0, -1074, by decide, by decide, by decide, Or.inr rfl⟩

/-- The magnitude with the given parts, if they are a valid representation. -/
def make? (significand : Nat) (exponent : Int) : Option Magnitude :=
  if h : significand < 2 ^ (53 : Nat) ∧ -1074 ≤ exponent ∧ exponent ≤ 971
      ∧ (2 ^ (52 : Nat) ≤ significand ∨ exponent = -1074) then
    some ⟨significand, exponent, h.1, h.2.1, h.2.2.1, h.2.2.2⟩
  else none

/-- The numerator of the quotient that the magnitude is. -/
def numerator (x : Magnitude) : Nat := x.significand * 2 ^ x.exponent.toNat

/-- The denominator of the quotient that the magnitude is. -/
def denominator (x : Magnitude) : Nat := 2 ^ (-x.exponent).toNat

/-- The greatest `e` with `2 ^ e ≤ n / d`, for positive `n` and `d`. -/
def binaryOrder (n d : Nat) : Int :=
  let e : Int := (Nat.log2 n : Int) - Nat.log2 d
  if d * 2 ^ e.toNat ≤ n * 2 ^ (-e).toNat then e else e - 1

/-- The magnitude nearest to `n / d`, unless it is too large. -/
def ofRatio? (n d : Nat) : Option Magnitude :=
  if n = 0 then some zero
  else
    let e := max (-1074) (binaryOrder n d - 52)
    let m := roundHalfEven (n * 2 ^ (-e).toNat) (d * 2 ^ e.toNat)
    if m = 2 ^ (53 : Nat) then make? (2 ^ (52 : Nat)) (e + 1) else make? m e

/-- The magnitude nearest to `n * 10 ^ e`, unless it is too large. Powers of ten far outside
the range of magnitudes are not computed. -/
def ofDecimal? (n : Nat) (e : Int) : Option Magnitude :=
  if n = 0 then some zero
  else if 310 < e + Text.width n then none
  else if e + Text.width n < -330 then some zero
  else ofRatio? (n * 10 ^ e.toNat) (10 ^ (-e).toNat)

/-- The whole part of a magnitude. -/
def floor (x : Magnitude) : Nat := x.numerator / x.denominator

/-- Whether a magnitude is a whole number. -/
def isWhole (x : Magnitude) : Bool := x.numerator % x.denominator == 0

end Magnitude

namespace Binary64

/-- The number `± n * 10 ^ e`, rounded. -/
def ofDecimal (negative : Bool) (n : Nat) (e : Int) : Binary64 :=
  match Magnitude.ofDecimal? n e with
  | some x => finite negative x
  | none => infinite negative

/-- Whether the number is zero, of either sign. -/
def isZero : Binary64 → Bool
  | finite _ x => x.significand == 0
  | _ => false

/-- The whole number that a finite number without fraction equals. -/
def toInt? : Binary64 → Option Int
  | finite negative x =>
    if x.isWhole then some (if negative then -(x.floor : Int) else x.floor) else none
  | _ => none

end Binary64

end PodTable
