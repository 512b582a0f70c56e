/-!
# Dates

Dates of the Gregorian calendar, from year 1 to year 9999, and their number: the days since the
first of January of year 1. `Date.ofNumber` finds the date of a number by the cycles of four
hundred, one hundred, four and one years.
-/

namespace PodTable

/-- Whether a year has a twenty-ninth of February. -/
def isLeapYear (year : Nat) : Bool :=
  year % 4 == 0 && (year % 100 != 0 || year % 400 == 0)

/-- The number of days in a month. -/
def daysInMonth (year month : Nat) : Nat :=
  if month = 2 then (if isLeapYear year then 29 else 28)
  else if month = 4 ∨ month = 6 ∨ month = 9 ∨ month = 11 then 30
  else 31

/-- The number of days of a year before a month. -/
def daysBeforeMonth (year : Nat) : Nat → Nat
  | 0 => 0
  | 1 => 0
  | month + 1 => daysBeforeMonth year month + daysInMonth year month

/-- The number of days before a year. -/
def daysBeforeYear (year : Nat) : Nat :=
  let y := year - 1
  365 * y + y / 4 - y / 100 + y / 400

/-- A date of the Gregorian calendar. -/
structure Date where
  year : Nat
  month : Nat
  day : Nat
  year_pos : 1 ≤ year
  year_le : year ≤ 9999
  month_pos : 1 ≤ month
  month_le : month ≤ 12
  day_pos : 1 ≤ day
  day_le : day ≤ daysInMonth year month
deriving DecidableEq, Repr

namespace Date

/-- Whether a month and a day exist in a year, which may be the year 0. -/
def exists? (year month day : Nat) : Bool :=
  1 ≤ month && month ≤ 12 && 1 ≤ day && day ≤ daysInMonth year month

/-- The date with the given parts. -/
def make? (year month day : Nat) : Option Date :=
  if h : (1 ≤ year ∧ year ≤ 9999) ∧ (1 ≤ month ∧ month ≤ 12)
      ∧ 1 ≤ day ∧ day ≤ daysInMonth year month then
    some ⟨year, month, day, h.1.1, h.1.2, h.2.1.1, h.2.1.2, h.2.2.1, h.2.2.2⟩
  else none

/-- The number of days from the first of January of year 1 to a date. -/
def number (d : Date) : Nat :=
  daysBeforeYear d.year + daysBeforeMonth d.year d.month + (d.day - 1)

/-- The month and the day that follow `n` full days of a year, the search starting at the given
month. -/
def monthAndDay (year : Nat) : List Nat → Nat → Nat × Nat
  | [], n => (12, n + 1)
  | m :: ms, n =>
    if n < daysInMonth year m then (m, n + 1)
    else monthAndDay year ms (n - daysInMonth year m)

/-- The year with the given number of days before some day of it, and the days of the year
before that day. -/
def yearAndDay (n : Nat) : Nat × Nat :=
  let n₄₀₀ := n / 146097
  let r₄₀₀ := n % 146097
  let n₁₀₀ := min 3 (r₄₀₀ / 36524)
  let r₁₀₀ := r₄₀₀ - 36524 * n₁₀₀
  let n₄ := r₁₀₀ / 1461
  let r₄ := r₁₀₀ % 1461
  let n₁ := min 3 (r₄ / 365)
  (400 * n₄₀₀ + 100 * n₁₀₀ + 4 * n₄ + n₁ + 1, r₄ - 365 * n₁)

/-- The date with a given number, unless it lies after year 9999. -/
def ofNumber? (n : Nat) : Option Date :=
  let (year, r) := yearAndDay n
  let (month, day) := monthAndDay year [1, 2, 3, 4, 5, 6, 7, 8, 9, 10, 11, 12] r
  make? year month day

end Date

end PodTable
