import PodTable.Settings.Palette
import PodTable.Table.Header
import PodTable.Pod.Phase

/-!
# Painting rows

The category of a row follows from two of its fields, found by the names of their columns: the
status, and the verdict on its readiness. Six statuses have a category of their own, and any
other row is painted as standard or as an error. A row is happy when the verdict is blank or
missing.
-/

namespace PodTable

namespace Category

/-- The category of a status, apart from readiness. -/
def ofFixedStatus? (status : String) : Option Category :=
  if status = Status.pending then some pending
  else if status = Status.containerCreating then some creating
  else if status = Status.podInitializing then some creating
  else if status = Status.initialized then some highlight
  else if status = Status.completed then some completed
  else if status = Status.terminating then some kill
  else none

/-- The category of a status, blanks around it counting for nothing. -/
def ofStatus (status : String) (happy : Bool) : Category :=
  match ofFixedStatus? (Text.strip status) with
  | some c => c
  | none => if happy then standard else error

end Category

namespace Header

/-- Whether the verdict on the readiness of a row is blank or missing. -/
def isHappy (h : Header) (fields : List String) : Bool :=
  match h.field? "VALID" fields with
  | some s => (Text.strip s).isEmpty
  | none => true

/-- The category of a row, unless it has no status. -/
def category? (h : Header) (fields : List String) : Option Category :=
  (h.field? "STATUS" fields).map (fun s => Category.ofStatus s (h.isHappy fields))

/-- The text of the color in which a row is painted. -/
def colorText (h : Header) (fields : List String) (p : Palette) : String :=
  p.colorFor ((h.category? fields).getD .standard)

/-- The color in which a row is painted. -/
def paint (h : Header) (fields : List String) (p : Palette) : Except ColorFault Color :=
  Color.ofText (h.colorText fields p)

end Header

end PodTable
