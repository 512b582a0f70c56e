import PodTable.Number.Binary64
import PodTable.Text.Numeral

/-!
# Durations

A duration is written with the precision that its length deserves: in seconds up to two minutes,
in minutes and seconds up to ten minutes, in minutes up to three hours, in hours and minutes up
to eight hours, in hours up to two days, in days and hours up to eight days, in days up to two
years, in years and days up to eight years, and in years beyond. A year has 365 days. The
smaller part is left out when it is zero.

A duration of less than two seconds below zero is no time at all, and below that invalid.
-/

namespace PodTable

namespace Duration

/-- The greatest number of days in a duration. -/
def dayLimit : Nat := 999999999

/-- The days in a number of microseconds, if they are more than a duration can have. -/
def excessDays? (microseconds : Int) : Option Int :=
  let days := microseconds / 86400000000
  if days.natAbs ≤ dayLimit then none else some days

/-- The whole seconds in a number of microseconds: the quotient by a million as a floating point
number, without its fraction. -/
def wholeSeconds (microseconds : Int) : Int :=
  match Magnitude.ofRatio? microseconds.natAbs 1000000 with
  | some x => if microseconds < 0 then -(x.floor : Int) else x.floor
  | none => 0

/-- One part of a duration. -/
def part (n : Nat) (unit : String) : String := Text.numeral n ++ unit

/-- Two parts of a duration, the second of which is left out when it is zero. -/
def parts (n : Nat) (unit : String) (m : Nat) (unit' : String) : String :=
  if m = 0 then part n unit else part n unit ++ part m unit'

/-- The text of a number of seconds. -/
def secondsText (seconds : Nat) : String :=
  let minutes := seconds / 60
  let hours := minutes / 60
  let days := hours / 24
  if seconds < 60 * 2 then part seconds "s"
  else if minutes < 10 then parts minutes "m" (seconds % 60) "s"
  else if minutes < 60 * 3 then part minutes "m"
  else if hours < 8 then parts hours "h" (minutes % 60) "m"
  else if hours < 48 then part hours "h"
  else if hours < 24 * 8 then parts days "d" (hours % 24) "h"
  else if hours < 24 * 365 * 2 then part days "d"
  else if hours < 24 * 365 * 8 then parts (days / 365) "y" (days % 365) "d"
  else part (days / 365) "y"

/-- The text of a duration in microseconds. -/
def text (microseconds : Int) : String :=
  let seconds := wholeSeconds microseconds
  if seconds < -1 then "<invalid>"
  else secondsText seconds.toNat

end Duration

end PodTable
