import PodTable.Proofs.Outcome
import PodTable.Proofs.Table.Usage
import PodTable.Table.Paint

/-!
# Painting in the narrow display

The narrow display hides the verdict on the readiness of a row, and a row without a verdict is
happy. So a row that is painted as an error in the wide display is painted as standard in the
narrow one, and every other row keeps its category. `Item.category?_display` says so of every item.
-/

namespace PodTable

namespace Category

/-- What is left of a category where nothing is known of readiness. -/
def withoutVerdict : Category → Category
  | error => standard
  | c => c

theorem withoutVerdict_eq (c : Category) :
  c.withoutVerdict = if c = error then standard else c
  := by
  cases c <;> rfl

/-- No status is an error by itself. -/
theorem ofFixedStatus?_ne_error (status : String) :
  ofFixedStatus? status ≠ some error
  := by
  unfold ofFixedStatus?
  split_ifs <;> simp

/-- Where every row is happy, no category but that of an error is lost. -/
theorem ofStatus_true (status : String) (happy : Bool) :
  ofStatus status true = (ofStatus status happy).withoutVerdict
  := by
  unfold ofStatus
  cases h : ofFixedStatus? (Text.strip status) with
  | none => cases happy <;> rfl
  | some c =>
    cases c with
    | error => cases ofFixedStatus?_ne_error _ h
    | _ => rfl

end Category

namespace View

variable (v : View)

theorem category?_row :
  header.category? v.row.fields = some (.ofStatus v.pod.status (header.isHappy v.row.fields))
  := by
  have hstatus : header.field? "STATUS" v.row.fields = some v.pod.status := v.cell?_row "STATUS"
  rw [Header.category?, hstatus]
  rfl

/-- The narrow display has the status of a pod and no verdict. -/
theorem category?_narrow :
  (header.visible false).category? (header.restrict false v.row.fields)
    = some (.ofStatus v.pod.status true)
  := by
  have hstatus : (header.visible false).field? "STATUS" (header.restrict false v.row.fields)
      = some v.pod.status := v.field?_restrict false "STATUS"
  have hverdict : (header.visible false).field? "VALID" (header.restrict false v.row.fields)
      = none := v.field?_restrict false "VALID"
  rw [Header.category?, Header.isHappy, hstatus, hverdict]
  rfl

/-- The wide display shows the whole row. -/
theorem category?_wide :
  (header.visible true).category? (header.restrict true v.row.fields)
    = header.category? v.row.fields
  := by
  have hfield (name : String) :
      (header.visible true).field? name (header.restrict true v.row.fields)
        = header.field? name v.row.fields := by
    rw [field?_restrict, ← Row.cell?, cell?_row]
    rfl
  rw [Header.category?, Header.isHappy, hfield, hfield]
  rfl

end View

namespace Item

open Outcome

/-- The category of a row in a display is that of the whole row, but for errors: where the display
is narrow, an error is painted as standard. -/
theorem category?_display [EpochRule] {now : Timestamp} {i : Item} {row : Row}
    (h : i.render now = .ok row) (settings : Option Settings) (wide : Bool) :
  ∃ c, header.category? row.fields = some c
    ∧ (displayHeader settings (some wide)).category? (header.restrict wide row.fields)
      = some (if wide = false ∧ c = .error then .standard else c)
  := by
  obtain ⟨v, _, rfl⟩ := map_eq_ok_iff.mp h
  use .ofStatus v.pod.status (header.isHappy v.row.fields), v.category?_row
  cases wide with
  | true => exact v.category?_wide.trans v.category?_row
  | false =>
    apply v.category?_narrow.trans
    rw [Category.ofStatus_true _ (header.isHappy v.row.fields), Category.withoutVerdict_eq]
    simp

/-- A pod that runs with a container that is not ready, and is being deleted unless the time of its
deletion is null. -/
def unreadyPod (deletion : Document) : Document :=
  let status := Document.object [("name", .text "web"), ("ready", .bool false)]
  .object
    [ ("metadata", .object [("name", .text "unready"), ("deletionTimestamp", deletion)]),
      ("status", .object [("phase", .text "Running"), ("containerStatuses", .list [status])]) ]

/-- A pod that is being deleted keeps its category, ready or not. -/
theorem category?_display_of_deleted :
  ∃ row, (Item.report (unreadyPod (.text "2024-01-01")) .null).render newYear = .ok row
    ∧ header.category? row.fields = some .kill
    ∧ (displayHeader none (some false)).category? (header.restrict false row.fields) = some .kill
  := by
  obtain ⟨row, hrow, hkill⟩ : ∃ row,
      (Item.report (unreadyPod (.text "2024-01-01")) .null).render newYear = .ok row
        ∧ header.category? row.fields = some .kill := ⟨_, rfl, rfl⟩
  obtain ⟨c, hc, hnarrow⟩ := category?_display hrow none false
  obtain rfl : c = .kill := Option.some.inj (hc.symm.trans hkill)
  exact ⟨row, hrow, hkill, hnarrow⟩

/-- A pod that is not ready does not keep its category in the narrow display. -/
theorem category?_narrow_of_unready :
  ∃ row, (Item.report (unreadyPod .null) .null).render newYear = .ok row
    ∧ header.category? row.fields = some .error
    ∧ (displayHeader none (some false)).category? (header.restrict false row.fields)
      = some .standard
  := ⟨_, rfl, rfl, rfl⟩

end Item

end PodTable
