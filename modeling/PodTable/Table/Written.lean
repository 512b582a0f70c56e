import PodTable.Number.Literal
import PodTable.Table.Batch

/-!
# Rows that can be written

A whole number has to be short enough to be written. The numbers in a row are sums over a pod, and
such a sum may be too long although no number in the reported documents is. A row with such a
number cannot be written, and neither can a batch of items with such a row.
-/

namespace PodTable

namespace View

/-- The numbers in the row of a pod. -/
def numbers (v : View) : List Int :=
  (v.health.ready : Int) :: v.containerCount :: v.health.restarts
    :: UsageCells.numbers v.pod v.usage

/-- Whether the numbers in the row of a pod can be written. -/
def isWritable (v : View) : Bool := v.numbers.all Literal.isWritable

end View

namespace Item

variable [EpochRule]

/-- Whether an item has no row, or a row that can be written. -/
def isWritable (now : Timestamp) (i : Item) : Bool :=
  match i.view now with
  | .ok v => v.isWritable
  | .error _ => true

/-- The row of an item, or no answer if the row cannot be written. -/
def write? (now : Timestamp) (i : Item) : Option (Except Failure Row) :=
  if i.isWritable now then some (i.render now) else none

/-- The results of a batch of items, or no answer if a row cannot be written. -/
def writeAll? (now : Timestamp) (items : List Item) : Option (Except Failure Batch) :=
  if items.all (isWritable now) then some (renderAll now items) else none

end Item

end PodTable
