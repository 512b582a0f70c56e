import PodTable.Checked
import PodTable.Number.Arithmetic
import PodTable.Number.Literal
import PodTable.Time.Timestamp

/-!
# Reading timestamps

A timestamp is read from a text with a date, or a date and a time of day with an optional zone,
or from a number of seconds since the start of 1970 in universal time. A number greater than
twenty thousand million in absolute value counts milliseconds. A number may also be given as a
numeral in a text, and with a point in it that is a floating point number. Parts of a microsecond
are cut off in a text with a time of day.

How a floating point number is counted is left to an `EpochRule`, since the versions of the library
that validates timestamps do not agree on it: on whether the limit is tested on the number or on its
floor, on whether it is tested once more when milliseconds were made into seconds, and on the sign of
the fraction that is added to the floor. By the rule `EpochRule.byValue`, the one in use where no other
is given, a number counts for what it is: the limit is tested once, on the number, and the fraction is
what the number exceeds its floor by, rounded to microseconds in the arithmetic of floating point
numbers.

A text in none of these forms, or with a date or time of day that does not exist, is unreadable.
A point in time of the year 0, and a number beyond the years 1 to 9999, is out of range. A
numeral in a text beyond these years is unreadable as well. A whole number that is greater than
any floating point number is no time at all.
-/

namespace PodTable

-- Powers are those of natural numbers, whatever other instances a module imports.
attribute [local instance (2000)] instPowNat

/-- The points in time that floating point numbers denote, as numbers and as numerals in texts. -/
class EpochRule where
  number? : Binary64 → Option Instant
  numeral? : Binary64 → Option Instant

namespace Timestamp

/-- The value of two ASCII digits. -/
def twoDigits? : List Char → Option Nat
  | [a, b] =>
    if Text.isAsciiDigit a && Text.isAsciiDigit b then some (Text.decimalValue [a, b]) else none
  | _ => none

/-- The year, the month and the day of a date, which may not exist. -/
def dateParts? (cs : List Char) : Option (Nat × Nat × Nat) :=
  match cs with
  | [y₁, y₂, y₃, y₄, '-', m₁, m₂, '-', d₁, d₂] => do
    let century ← twoDigits? [y₁, y₂]
    let year ← twoDigits? [y₃, y₄]
    let month ← twoDigits? [m₁, m₂]
    let day ← twoDigits? [d₁, d₂]
    if Date.exists? (100 * century + year) month day then
      some (100 * century + year, month, day)
    else none
  | _ => none

/-- The minus sign, for which a hyphen may stand. -/
def minusSign : Char := Char.ofNat 0x2212

/-- The offset that a zone at the end of a text denotes. -/
def offsetOfText? : List Char → Option (Option Offset)
  | [] => some none
  | ['Z'] => some (some .zero)
  | ['z'] => some (some .zero)
  | s :: cs => do
    let negative ←
      if s = '-' ∨ s = minusSign then some true else if s = '+' then some false else none
    let (hour, minute) ← match cs with
      | [a, b, ':', c, d] => some ([a, b], [c, d])
      | [a, b, c, d] => some ([a, b], [c, d])
      | _ => none
    let hour ← twoDigits? hour
    let minute ← twoDigits? minute
    if minute < 60 then
      let n : Int := hour * 60 + minute
      (Offset.ofMinutes? (if negative then -n else n)).map some
    else none

/-- The microseconds that the digits after a point denote. -/
def microsecondsOfFraction (cs : List Char) : Nat :=
  let six := cs.take 6
  Text.decimalValue six * 10 ^ (6 - six.length)

/-- The seconds and the microseconds after a time of day in minutes, and the rest of the text. -/
def secondsOfText? (cs : List Char) : Option (Nat × Nat × List Char) :=
  match cs with
  | ':' :: a :: b :: rest => do
    let second ← twoDigits? [a, b]
    match rest with
    | point :: fraction =>
      if point = '.' ∨ point = ',' then
        let digits := fraction.takeWhile Text.isAsciiDigit
        if digits.isEmpty then none
        else some (second, microsecondsOfFraction digits,
          fraction.dropWhile Text.isAsciiDigit)
      else some (second, 0, rest)
    | [] => some (second, 0, [])
  | ':' :: _ => none
  | _ => some (0, 0, cs)

/-- The time of day and the zone that a text denotes. -/
def clockOfText? (cs : List Char) : Option (Clock × Option Offset) :=
  match cs with
  | a :: b :: ':' :: c :: d :: rest => do
    let hour ← twoDigits? [a, b]
    let minute ← twoDigits? [c, d]
    let (second, microsecond, zone) ← secondsOfText? rest
    let clock ← Clock.make? hour minute second microsecond
    let offset ← offsetOfText? zone
    some (clock, offset)
  | _ => none

/-- Whether `c` separates a date from a time of day. -/
def isSeparator (c : Char) : Bool := c == 'T' || c == 't' || c == ' ' || c == '_'

/-- The parts of a date, the time of day and the zone that a text denotes. -/
def partsOfText? (cs : List Char) : Option ((Nat × Nat × Nat) × Clock × Option Offset) := do
  let date ← dateParts? (cs.take 10)
  match cs.drop 10 with
  | [] => some (date, Clock.midnight, none)
  | s :: rest =>
    if isSeparator s then
      let (clock, offset) ← clockOfText? rest
      some (date, clock, offset)
    else none

/-- The start of 1970, in days since the start of year 1. -/
def epochDay : Nat := 719162

/-- The greatest absolute value of a number of seconds. -/
def secondsLimit : Nat := 20000000000

/-- The start of 1970. -/
def epoch : Instant := (epochDay * dayLength : Nat)

/-- The point in time that a whole number denotes. -/
def instantOfInt (i : Int) : Instant :=
  (if i.natAbs ≤ secondsLimit then 1000000 * i else 1000 * i) + epoch

/-- Whether the absolute value of a number is greater than `secondsLimit`. -/
def isLarge : Binary64 → Bool
  | .finite _ x => secondsLimit * x.denominator < x.numerator
  | _ => true

/-- The point in time after a finite number of units, of `length` microseconds each. Parts of a unit
are rounded to microseconds. -/
def instantOfUnits? (length : Nat) (x : Binary64) : Option Instant := do
  let whole ← x.floor?
  let part := x.add (Binary64.ofInt (-whole))
  let microseconds ← (part.mul (Binary64.ofInt length)).nearest?
  some (length * whole + microseconds + epoch)

/-- Whether a point in time lies in the year 0. -/
def isYearZero (i : Instant) : Bool := i < 0 && -(366 * dayLength : Nat) ≤ i

/-- Read a timestamp from a point in time. -/
def ofInstant (i : Instant) : Checked Timestamp :=
  match ofInstant? i with
  | some t => .sound t
  | none => .fault .timeOutOfRange

end Timestamp

/-- The rule by which a number counts for what it is. Large numbers in numerals are divided to give
seconds. -/
instance EpochRule.byValue : EpochRule where
  number? x := Timestamp.instantOfUnits? (if Timestamp.isLarge x then 1000 else 1000000) x
  numeral? x :=
    Timestamp.instantOfUnits? 1000000 (if Timestamp.isLarge x then x.divide 1000 else x)

namespace Timestamp

variable [EpochRule]

/-- The point in time that a numeral denotes: a whole number, or with a point a floating point
number. -/
def instantOfNumeral? (cs : List Char) : Option Instant :=
  let (negative, ds) := Literal.signAndRest cs
  match ds.dropWhile Text.isAsciiDigit with
  | [] =>
    let n : Int := Text.decimalValue ds
    if ds.isEmpty then none else some (instantOfInt (if negative then -n else n))
  | '.' :: _ =>
    (Literal.decimal? Text.isAsciiDigit ds).bind
      (fun (n, e) => EpochRule.numeral? (.ofDecimal negative n e))
  | _ => none

/-- Read a timestamp from a numeral in a text. -/
def ofNumeral (cs : List Char) : Checked Timestamp :=
  match instantOfNumeral? cs with
  | some i =>
    match ofInstant? i with
    | some t => .sound t
    | none => .fault (if isYearZero i then .timeOutOfRange else .unreadableTime)
  | none => .fault .unreadableTime

/-- Read a timestamp from a text. -/
def ofText (s : String) : Checked Timestamp :=
  match partsOfText? s.toList with
  | some ((year, month, day), clock, offset) =>
    match Date.make? year month day with
    | some date => .sound ⟨date, clock, offset⟩
    | none => .fault .timeOutOfRange
  | none => ofNumeral s.toList

/-- Read a timestamp from a floating point number. -/
def ofFloat (x : Binary64) : Checked Timestamp :=
  match EpochRule.number? x with
  | some i => ofInstant i
  | none => .fault .timeOutOfRange

/-- Read a timestamp. -/
def check : Document → Checked Timestamp
  | .int i =>
    if (Binary64.ofInt i).isFinite then ofInstant (instantOfInt i) else .fault .notTime
  | .float x => ofFloat x
  | .text s => ofText s
  | _ => .fault .notTime

end Timestamp

end PodTable
