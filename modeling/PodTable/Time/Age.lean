import PodTable.Placeholder
import PodTable.Time.Duration
import PodTable.Time.Timestamp

/-!
# Ages

The age of something created at a timestamp is the duration since then. Two timestamps of which
only one has a zone have no difference, and neither have two that are too far apart, so a
timestamp without a zone is put in universal time before its age is taken.
-/

namespace PodTable

/-- Why the time between two timestamps is not known. -/
inductive TimeFault where
  | unlikeZones
  | excessive (days : Int)
deriving DecidableEq, Repr

namespace Timestamp

/-- The timestamp in universal time if it has no zone. -/
def anchored (t : Timestamp) : Timestamp :=
  match t.offset with
  | none => { t with offset := some .zero }
  | some _ => t

/-- The microseconds from one timestamp to another. -/
def since (now created : Timestamp) : Except TimeFault Int :=
  if now.offset.isSome ≠ created.offset.isSome then .error .unlikeZones
  else
    match Duration.excessDays? (now.instant - created.instant) with
    | some days => .error (.excessive days)
    | none => .ok (now.instant - created.instant)

end Timestamp

namespace Age

/-- The cell for the age of something created at a timestamp, if that is known. -/
def cell (created : Option Timestamp) (now : Timestamp) : Except TimeFault String :=
  match created with
  | some t => (now.anchored.since t.anchored).map Duration.text
  | none => .ok notAvailable

end Age

end PodTable
