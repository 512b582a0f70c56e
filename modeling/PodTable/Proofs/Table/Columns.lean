import Mathlib.Data.List.Basic
import PodTable.Proofs.Table.Cells

/-!
# Positions of columns

The position of a name in a display is counted along all columns, and the display is made by leaving
columns out. Both tell the same: the position is that of the name among the names that are shown, and
a row that is cut down to the display has there the field of the first shown column of the name.
`Header.indexOf?_agrees_visible` says so of every header.
-/

namespace PodTable

namespace Header

variable (h : Header) (name : String) (wide : Bool)

/-- The position of a name is its first one among the names that are shown. The induction is on the
columns: one that is not shown is passed over on both sides. -/
theorem indexOf?_eq_idxOf? :
  h.indexOf? name wide = (h.visible wide).names.idxOf? name
  := by
  induction h with
  | nil => rfl
  | cons c cs ih =>
    unfold visible names at ih ⊢
    rw [indexOf?]
    by_cases hshown : c.isShown wide
    · rw [if_pos hshown, List.filter_cons_of_pos hshown, List.map_cons, List.idxOf?_cons, ih]
      simp only [beq_iff_eq]
    · rw [if_neg hshown, List.filter_cons_of_neg hshown, ih]

theorem indexOf?_eq_none_iff :
  h.indexOf? name wide = none ↔ name ∉ (h.visible wide).names
  := by
  rw [indexOf?_eq_idxOf?, List.idxOf?_eq_none_iff]

/-- What is shown of a display is what both displays show. -/
theorem visible_visible (a b : Bool) :
  (h.visible a).visible b = h.visible (a && b)
  := by
  rw [visible, visible, visible, List.filter_filter]
  congr 1
  funext c
  cases a <;> cases b <;> cases hwide : c.wide <;> simp [Column.isShown, hwide]

/-- Every column of a display is shown in it. -/
theorem indexOf?_visible :
  (h.visible wide).indexOf? name true = h.indexOf? name wide
  := by
  rw [indexOf?_eq_idxOf?, indexOf?_eq_idxOf?, visible_visible, Bool.and_true]

theorem count_visible (c : Column) :
  (h.visible wide).count c = if c.isShown wide then h.count c else 0
  := by
  split
  · rename_i hshown
    exact List.count_filter hshown
  · rename_i hhidden
    apply List.count_eq_zero.mpr
    intro hmem
    exact hhidden (List.of_mem_filter hmem)

/-- In a row that is cut down to a display, the field at the position of a name is that of the first
shown column of the name. -/
theorem indexOf?_bind_restrict {α : Type} {fields : List α} (hlength : fields.length = h.length) :
  (h.indexOf? name wide).bind (fun i => (h.restrict wide fields)[i]?)
    = ((h.zip fields).find? (fun p => p.1.isShown wide && p.1.name = name)).map (·.2)
  := by
  have hheader : (h.zip fields).map (·.1) = h := List.map_fst_zip (Nat.le_of_eq hlength.symm)
  have hfields : (h.zip fields).map (·.2) = fields := List.map_snd_zip (Nat.le_of_eq hlength)
  calc (h.indexOf? name wide).bind (fun i => (h.restrict wide fields)[i]?)
      = (h.visible wide).field? name (h.restrict wide fields) := by
        rw [field?, indexOf?_visible]
    _ = (((h.zip fields).filter (·.1.isShown wide)).find? (·.1.name = name)).map (·.2) := by
        rw [← field?_map, ← visible_map, ← restrict_map, hheader, hfields]
    _ = ((h.zip fields).find? (fun p => p.1.isShown wide && p.1.name = name)).map (·.2) := by
        rw [List.find?_filter]
        simp only [Bool.decide_and, Bool.decide_eq_true, decide_eq_true_eq]

/-- A display has the columns of the header that are not wide, or all of them, in their order, and
the position of a name in the display is its first one there. What a display shows of a display is
what both show. In a row with a field for each column, cut down to a display, the position of a name
has the field that stands under the first shown column of the name. -/
theorem indexOf?_agrees_visible :
  (∀ wide, h.indexOf? name wide = (h.visible wide).names.idxOf? name
    ∧ (h.indexOf? name wide = none ↔ name ∉ (h.visible wide).names)
    ∧ (h.visible wide).Sublist h
    ∧ ∀ c, (h.visible wide).count c = if wide = true ∨ c.wide = false then h.count c else 0)
  ∧ (∀ a b, (h.visible a).visible b = h.visible (a && b))
  ∧ ∀ {α : Type} (fields : List α), fields.length = h.length → ∀ wide p,
      (h.zip fields).find? (fun p => p.1.isShown wide && p.1.name = name) = some p →
        ∃ i, h.indexOf? name wide = some i ∧ (h.restrict wide fields)[i]? = some p.2
  := by
  refine ⟨fun wide => ⟨h.indexOf?_eq_idxOf? name wide, h.indexOf?_eq_none_iff name wide,
    List.filter_sublist, ?_⟩, h.visible_visible, ?_⟩
  · intro c
    rw [count_visible]
    simp [Column.isShown]
  · intro α fields hlength wide p hp
    apply Option.bind_eq_some_iff.mp
    rw [indexOf?_bind_restrict h name wide hlength, hp, Option.map_some]

/-- A header with a name three times, the first time on a wide column. -/
def repeatedHeader : Header :=
  [{ name := "A", wide := true }, { name := "B", wide := true }, { name := "C", time := true },
    { name := "B", metrics := true }, { name := "B", alignRight := true }]

theorem indexOf?_agrees_visible_of_repeated :
  (["1", "2", "3", "4", "5"] : List String).length = repeatedHeader.length
  ∧ repeatedHeader.indexOf? "B" false = some 1
  ∧ (repeatedHeader.restrict false ["1", "2", "3", "4", "5"])[1]? = some "4"
  := by
  obtain ⟨i, hindex, hfield⟩ := (indexOf?_agrees_visible repeatedHeader "B").2.2
    ["1", "2", "3", "4", "5"] rfl false ({ name := "B", metrics := true }, "4") (by decide)
  obtain rfl : 1 = i := Option.some.inj hindex
  exact ⟨rfl, hindex, hfield⟩

end Header

end PodTable
