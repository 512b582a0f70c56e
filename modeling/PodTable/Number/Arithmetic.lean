import PodTable.Number.Binary64

/-!
# Arithmetic of binary floating point numbers

Sums, products and quotients are taken exactly and rounded once, to the nearest number. Where
there is nothing to round to, the result is infinite or no number at all.
-/

namespace PodTable

namespace Binary64

/-- The number `± n / d`, rounded. -/
def ofRatio (negative : Bool) (n d : Nat) : Binary64 :=
  match Magnitude.ofRatio? n d with
  | some x => finite negative x
  | none => infinite negative

/-- The whole number `i`, rounded. -/
def ofInt (i : Int) : Binary64 := ofRatio (i < 0) i.natAbs 1

/-- Whether the number is finite. -/
def isFinite : Binary64 → Bool
  | finite _ _ => true
  | _ => false

/-- The number zero. -/
def zero : Binary64 := finite false .zero

/-- The number of the opposite sign. -/
def negate : Binary64 → Binary64
  | finite negative x => finite (!negative) x
  | infinite negative => infinite (!negative)
  | nan => nan

/-- The numerator of the quotient that a finite number is, with its sign. -/
def signedNumerator (negative : Bool) (x : Magnitude) : Int :=
  if negative then -(x.numerator : Int) else x.numerator

/-- The sum of two numbers. -/
def add : Binary64 → Binary64 → Binary64
  | finite r x, finite s y =>
    let n := signedNumerator r x * y.denominator + signedNumerator s y * x.denominator
    if n = 0 then finite (r && s) .zero
    else ofRatio (n < 0) n.natAbs (x.denominator * y.denominator)
  | finite _ _, y => y
  | infinite _, nan => nan
  | infinite r, infinite s => if r = s then infinite r else nan
  | infinite r, finite _ _ => infinite r
  | nan, _ => nan

/-- The product of two numbers. -/
def mul : Binary64 → Binary64 → Binary64
  | finite r x, finite s y =>
    ofRatio (r != s) (x.numerator * y.numerator) (x.denominator * y.denominator)
  | infinite r, infinite s => infinite (r != s)
  | infinite r, finite s y => if y.significand = 0 then nan else infinite (r != s)
  | finite r x, infinite s => if x.significand = 0 then nan else infinite (r != s)
  | _, _ => nan

/-- The number divided by a positive whole number. -/
def divide : Binary64 → Nat → Binary64
  | finite negative x, n => ofRatio negative x.numerator (x.denominator * n)
  | x, _ => x

/-- The greatest whole number that is at most a finite number. -/
def floor? : Binary64 → Option Int
  | finite negative x => some (signedNumerator negative x / x.denominator)
  | _ => none

/-- The whole number nearest to a finite number, the one farther from zero of two nearest. -/
def nearest? : Binary64 → Option Int
  | finite negative x =>
    let n := (2 * x.numerator + x.denominator) / (2 * x.denominator)
    some (if negative then -(n : Int) else n)
  | _ => none

end Binary64

end PodTable
