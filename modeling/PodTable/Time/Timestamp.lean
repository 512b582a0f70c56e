import PodTable.Text.Numeral
import PodTable.Time.Date

/-!
# Timestamps

A timestamp is a date, a time of day to the microsecond, and maybe the offset of its zone. A
timestamp without a zone is taken in universal time. `Timestamp.instant` counts the microseconds
from the start of year 1 in universal time, and may be negative for a timestamp of that year in
an eastern zone. `Timestamp.text` is the form in which a timestamp is written.
-/

namespace PodTable

/-- A time of day. -/
structure Clock where
  hour : Nat
  minute : Nat
  second : Nat
  microsecond : Nat
  hour_lt : hour < 24
  minute_lt : minute < 60
  second_lt : second < 60
  microsecond_lt : microsecond < 1000000
deriving DecidableEq, Repr

/-- The distance of a zone from universal time, which is less than a day: east is positive. -/
structure Offset where
  microseconds : Int
  microseconds_gt : -86400000000 < microseconds
  microseconds_lt : microseconds < 86400000000
deriving DecidableEq, Repr

/-- A date and a time of day, in a zone if one is given. -/
structure Timestamp where
  date : Date
  clock : Clock
  offset : Option Offset
deriving DecidableEq, Repr

/-- A point in time, as microseconds since the start of year 1 in universal time. -/
abbrev Instant := Int

namespace Clock

/-- The start of a day. -/
def midnight : Clock := ⟨0, 0, 0, 0, by decide, by decide, by decide, by decide⟩

/-- The time of day with the given parts. -/
def make? (hour minute second microsecond : Nat) : Option Clock :=
  if h : hour < 24 ∧ minute < 60 ∧ second < 60 ∧ microsecond < 1000000 then
    some ⟨hour, minute, second, microsecond, h.1, h.2.1, h.2.2.1, h.2.2.2⟩
  else none

/-- The number of microseconds since midnight. -/
def number (c : Clock) : Nat :=
  ((c.hour * 60 + c.minute) * 60 + c.second) * 1000000 + c.microsecond

/-- The time of day a number of microseconds after midnight, days counting for nothing. -/
def ofNumber (n : Nat) : Clock where
  hour := n / 3600000000 % 24
  minute := n / 60000000 % 60
  second := n / 1000000 % 60
  microsecond := n % 1000000
  hour_lt := Nat.mod_lt _ (by decide)
  minute_lt := Nat.mod_lt _ (by decide)
  second_lt := Nat.mod_lt _ (by decide)
  microsecond_lt := Nat.mod_lt _ (by decide)

end Clock

namespace Offset

/-- Universal time. -/
def zero : Offset := ⟨0, by decide, by decide⟩

/-- The offset of so many minutes. -/
def ofMinutes? (minutes : Int) : Option Offset :=
  if h : -1440 < minutes ∧ minutes < 1440 then
    some ⟨minutes * 60000000, by omega, by omega⟩
  else none

/-- The form in which an offset is written, without parts of a minute. -/
def text (o : Offset) : List Char :=
  if o.microseconds.natAbs < 1000000 then ['Z']
  else
    let minutes := o.microseconds.natAbs / 60000000
    (if o.microseconds < 0 then '-' else '+') :: Text.zeroPad 2 (Text.digits (minutes / 60))
      ++ ':' :: Text.zeroPad 2 (Text.digits (minutes % 60))

end Offset

namespace Timestamp

/-- The number of microseconds in a day. -/
def dayLength : Nat := 86400000000

/-- The point in time that a timestamp denotes. -/
def instant (t : Timestamp) : Instant :=
  (t.date.number * dayLength + t.clock.number : Nat)
    - (match t.offset with
      | some o => o.microseconds
      | none => 0)

/-- The timestamp in universal time of a point in time, within the years 1 to 9999. -/
def ofInstant? (i : Instant) : Option Timestamp :=
  if i < 0 then none
  else
    (Date.ofNumber? (i.toNat / dayLength)).map
      (fun d => ⟨d, Clock.ofNumber (i.toNat % dayLength), some .zero⟩)

/-- The form in which a timestamp is written. -/
def text (t : Timestamp) : String :=
  let two (n : Nat) := Text.zeroPad 2 (Text.digits n)
  let date := Text.zeroPad 4 (Text.digits t.date.year)
    ++ '-' :: two t.date.month ++ '-' :: two t.date.day
  let clock := two t.clock.hour ++ ':' :: two t.clock.minute ++ ':' :: two t.clock.second
  let fraction :=
    if t.clock.microsecond = 0 then []
    else '.' :: Text.zeroPad 6 (Text.digits t.clock.microsecond)
  let zone := match t.offset with
    | some o => o.text
    | none => []
  String.ofList (date ++ 'T' :: clock ++ fraction ++ zone)

end Timestamp

end PodTable
