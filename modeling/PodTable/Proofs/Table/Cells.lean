import Mathlib.Tactic.Common
import PodTable.Table.Row

/-!
# Cells of a row

A row holds one cell for each column of the table. The cell of a row under a name is what the
first column of that name shows of the pod, and the columns that are shown in the narrow display
keep their cells.
-/

namespace PodTable

namespace Header

variable {α : Type} (cs : List (Column × α)) (name : String)

/-- The field under a name is the one that stands with the first column of that name. -/
theorem field?_map :
  field? (cs.map (·.1)) name (cs.map (·.2)) = (cs.find? (·.1.name = name)).map (·.2)
  := by
  induction cs with
  | nil => rfl
  | cons c cs ih =>
    by_cases h : c.1.name = name
    · simp [field?, indexOf?, Column.isShown, h]
    · rw [List.find?_cons_of_neg (by simpa using h), ← ih]
      cases hposition : indexOf? (cs.map (·.1)) name true <;>
        simp [field?, indexOf?, Column.isShown, h, hposition]

/-- Columns and fields that stand together are hidden together. -/
theorem restrict_map (wide : Bool) :
  restrict (cs.map (·.1)) wide (cs.map (·.2)) = (cs.filter (·.1.isShown wide)).map (·.2)
  := by
  simp [restrict, List.zip_map']

theorem visible_map (wide : Bool) :
  visible (cs.map (·.1)) wide = (cs.filter (·.1.isShown wide)).map (·.1)
  := by
  rw [visible, List.filter_map]
  rfl

end Header

namespace Row

/-- The cell of a row under the first column of a name. -/
def cell? (r : Row) (name : String) : Option String := header.field? name r.fields

end Row

namespace View

/-- The columns of the table with the cells of a pod. -/
def cells (v : View) : List (Column × String) := columns.map (fun c => (c.1, c.2 v))

variable (v : View)

theorem header_eq_map_cells :
  header = v.cells.map (·.1)
  := by
  simp [header, cells, Function.comp_def]

theorem fields_eq_map_cells :
  v.row.fields = v.cells.map (·.2)
  := by
  simp [row, cells, Function.comp_def]

/-- The field of a row at a position is what the column at that position shows. -/
theorem getElem?_row (i : Nat) :
  v.row.fields[i]? = columns[i]?.map (·.2 v)
  := List.getElem?_map

/-- The cell of a row under a name is what the first column of that name shows. -/
theorem cell?_row (name : String) :
  v.row.cell? name = (columns.find? (·.1.name = name)).map (·.2 v)
  := by
  rw [Row.cell?, header_eq_map_cells v, fields_eq_map_cells, Header.field?_map, cells,
    List.find?_map, Option.map_map]
  rfl

/-- The field of a row in a display under a name is what the first column of that name shows that
is in the display. -/
theorem field?_restrict (wide : Bool) (name : String) :
  (header.visible wide).field? name (header.restrict wide v.row.fields)
    = (columns.find? (fun c => c.1.isShown wide && c.1.name = name)).map (·.2 v)
  := by
  rw [header_eq_map_cells v, fields_eq_map_cells, Header.visible_map, Header.restrict_map,
    Header.field?_map, List.find?_filter, cells, List.find?_map, Option.map_map]
  simp only [Function.comp_def, decide_eq_true_eq, Bool.decide_and, Bool.decide_eq_true]

end View

end PodTable
