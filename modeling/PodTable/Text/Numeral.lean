/-!
# Numerals

Whole numbers in decimal, without leading zeros and without a plus sign, and numbers padded
with zeros to a fixed width.
-/

namespace PodTable

-- Powers are those of natural numbers, whatever other instances a module imports.
attribute [local instance (2000)] instPowNat

namespace Text

/-- The decimal digits of `n`. -/
def digits (n : Nat) : List Char := Nat.toDigits 10 n

/-- The number of decimal digits of `n`. Zero has one digit. -/
def width (n : Nat) : Nat := (digits n).length

/-- The decimal numeral of an integer. -/
def numeral (i : Int) : String :=
  if i < 0 then String.ofList ('-' :: digits i.natAbs) else String.ofList (digits i.natAbs)

/-- The text `cs` with zeros put in front up to the length `n`. -/
def zeroPad (n : Nat) (cs : List Char) : List Char :=
  List.replicate (n - cs.length) '0' ++ cs

/-- The lowest `n` digits of `m` in base sixteen, in lower case. -/
def hexDigits (n m : Nat) : List Char :=
  zeroPad n (Nat.toDigits 16 m)

theorem width_pos (n : Nat) :
  0 < width n
  := Nat.length_toDigits_pos

theorem width_le_iff {n k : Nat} (h : 0 < k) :
  width n ≤ k ↔ n < 10 ^ k
  := Nat.length_toDigits_le_iff (by decide) h

end Text

end PodTable
