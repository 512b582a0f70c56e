import PodTable.Table.Row

/-!
# Batches

A batch of items is rendered one item after another. An item that cannot be read has an error in
place of a row, and a warning is given at its position. Any other failure ends the batch without
results.
-/

namespace PodTable

/-- What came of an item: a row, or the error that kept it from being read. -/
structure RowResult where
  success : Bool
  row : Option Row := none
  error : Option SourceError := none

/-- What came of a batch: a result for each item, and the positions of the items that a warning
was given for. -/
structure Batch where
  results : List RowResult := []
  warnings : List Nat := []

namespace RowResult

/-- The result of an item with a row. -/
def shown (r : Row) : RowResult := { success := true, row := some r }

/-- The result of an item that cannot be read. -/
def unread (e : SourceError) : RowResult := { success := false, error := some e }

end RowResult

variable [EpochRule]

namespace Batch

/-- Render one more item, which stands at position `n`. -/
def step (now : Timestamp) (b : Batch) (i : Item) (n : Nat) : Except Failure Batch :=
  match i.render now with
  | .ok r => .ok { b with results := b.results ++ [.shown r] }
  | .error (.unreadable e) => .ok ⟨b.results ++ [.unread e], b.warnings ++ [n]⟩
  | .error f => .error f

end Batch

namespace Item

/-- Render a batch of items. -/
def renderAll (now : Timestamp) (items : List Item) : Except Failure Batch :=
  items.zipIdx.foldlM (fun b i => b.step now i.1 i.2) {}

end Item

end PodTable
