import PodTable.Number.Binary64
import PodTable.Number.Decimal
import PodTable.Text.Digit

/-!
# Shortest decimal numerals

Seventeen decimal digits determine a magnitude. `Magnitude.shortest` finds the least number of
digits for which one of the two decimal neighbours of the magnitude reads back as the magnitude,
and of two such neighbours takes the nearer, the even one of two equally near. Where sixteen digits
do not read back, it takes the nearest numeral of seventeen.

A `Layout` is a numeral in parts, which has both a text and a decimal value. `Binary64.layout`
writes a finite number with the shortest digits: positionally, with at least one digit on each
side of the point, when the power of ten of the leading digit is between `-4` and `15`, and
otherwise with one digit before the point and a power of ten of at least two digits.
-/

namespace PodTable

-- Powers are those of natural numbers, whatever other instances a module imports.
attribute [local instance (2000)] instPowNat

namespace Magnitude

/-- The least `k` with `x < 10 ^ k`, for a positive magnitude `x`. -/
def decimalOrder (x : Magnitude) : Int :=
  if x.denominator ≤ x.numerator then Text.width x.floor
  else 1 - Text.width ((x.denominator - 1) / x.numerator)

/-- The numerator of `x * 10 ^ k` over the denominator `scaledDenominator x k`. -/
def scaledNumerator (x : Magnitude) (k : Int) : Nat := x.numerator * 10 ^ k.toNat

/-- The denominator of `x * 10 ^ k`. -/
def scaledDenominator (x : Magnitude) (k : Int) : Nat := x.denominator * 10 ^ (-k).toNat

/-- Whether `n * 10 ^ (-k)` rounds to `x`. -/
def readsBack (x : Magnitude) (n : Nat) (k : Int) : Bool := ofDecimal? n (-k) == some x

/-- The neighbour of `x * 10 ^ k` among the natural numbers that reads back as `x`, the nearer
one if both do. -/
def neighbour? (x : Magnitude) (k : Int) : Option Nat :=
  let low := x.scaledNumerator k / x.scaledDenominator k
  let near := roundHalfEven (x.scaledNumerator k) (x.scaledDenominator k)
  let far := 2 * low + 1 - near
  if x.readsBack near k then some near
  else if x.readsBack far k then some far
  else none

/-- The number `m * 10 ^ (-k)` in `n` digits. A coefficient that is a power of ten may have one
digit too many, and its last zero is dropped. -/
def inDigits (n m : Nat) (k : Int) : Nat × Int :=
  if n < Text.width m then (m / 10, k - 1) else (m, k)

/-- A coefficient `m` of `n` digits and a number `k` such that `m * 10 ^ (-k)` reads back as
`x`. -/
def numeral? (x : Magnitude) (n : Nat) : Option (Nat × Int) :=
  let k := n - x.decimalOrder
  (x.neighbour? k).map (fun m => inDigits n m k)

/-- A coefficient `m` of `n` digits and a number `k` such that `m * 10 ^ (-k)` is nearest to
`x`. -/
def nearest (x : Magnitude) (n : Nat) : Nat × Int :=
  let k := n - x.decimalOrder
  inDigits n (roundHalfEven (x.scaledNumerator k) (x.scaledDenominator k)) k

/-- A coefficient `m` and a number `k` such that `m * 10 ^ (-k)` is the shortest decimal numeral
of `x`. -/
def shortest (x : Magnitude) : Nat × Int :=
  match (List.range 16).findSome? (fun i => x.numeral? (i + 1)) with
  | some r => r
  | none => x.nearest 17

end Magnitude

/-- A decimal numeral: the digits before and after the point, and a power of ten. -/
structure Layout where
  negative : Bool
  whole : List Char
  fraction : List Char
  power : Option Int

namespace Layout

/-- The power of ten in a numeral, with its sign and at least two digits. -/
def powerText : Option Int → List Char
  | none => []
  | some e => 'e' :: (if e < 0 then '-' else '+') :: Text.zeroPad 2 (Text.digits e.natAbs)

/-- The text of a numeral. -/
def text (l : Layout) : List Char :=
  (if l.negative then ['-'] else []) ++ l.whole
    ++ (if l.fraction.isEmpty then [] else '.' :: l.fraction) ++ powerText l.power

/-- The decimal number that a numeral denotes, with a digit for each of its digits. -/
def value (l : Layout) : Decimal :=
  ⟨l.negative, Text.decimalValue (l.whole ++ l.fraction), l.power.getD 0 - l.fraction.length⟩

end Layout

namespace Binary64

/-- The numeral with the digits `cs` whose point stands `k` places after the first of them. -/
def layoutDigits (negative : Bool) (cs : List Char) (k : Int) : Layout :=
  if 16 < k ∨ k < -3 then ⟨negative, cs.take 1, cs.drop 1, some (k - 1)⟩
  else if k ≤ 0 then ⟨negative, ['0'], List.replicate k.natAbs '0' ++ cs, none⟩
  else if cs.length ≤ k.natAbs then
    ⟨negative, cs ++ List.replicate (k.natAbs - cs.length) '0', ['0'], none⟩
  else ⟨negative, cs.take k.natAbs, cs.drop k.natAbs, none⟩

/-- The numeral of a finite number. -/
def layoutOf (negative : Bool) (x : Magnitude) : Layout :=
  if x.significand = 0 then ⟨negative, ['0'], ['0'], none⟩
  else
    let (m, k) := x.shortest
    let cs := Text.digits m
    layoutDigits negative cs (cs.length - k)

/-- The text of a binary floating point number. -/
def text : Binary64 → String
  | finite negative x => String.ofList (layoutOf negative x).text
  | infinite negative => if negative then "-inf" else "inf"
  | nan => "nan"

end Binary64

end PodTable
