import Mathlib.Tactic.Common
import PodTable.Time.Timestamp

/-!
# The calendar

The date and the time of day that are found for a point in time are those of this point. The cycles
of four hundred, one hundred, four and one years leave the days of a year that it has, and the months
are passed through until one is longer than the days that are left.
-/

namespace PodTable

namespace Date

end Date

end PodTable
