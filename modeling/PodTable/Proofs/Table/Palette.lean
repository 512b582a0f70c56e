import PodTable.Proofs.Color.Spelling
import PodTable.Proofs.Settings.Record
import PodTable.Proofs.Table.Columns
import PodTable.Table.Paint

/-!
# Painting with a palette that was read

The texts of a palette are read as colors once when the palette is read, and again when a row is
painted. A palette keeps each text as it was written, or has the default text in its place, so the
second reading cannot fail, whatever columns and fields a row has. `Header.paint_of_check` says so of
every row.
-/

namespace PodTable

namespace Header

variable (h : Header) (fields : List String)

/-- Every row can be painted with a palette that was read from a mapping. Its color is what the text
of the palette for its category denotes, or for standard rows when it has no category, and this text
is the one in the mapping, or the default where there is none. The color is the default color, a number
up to 255, or three such numbers. -/
theorem paint_of_check {es : Entries Text.Wording} {p : Palette}
    (hp : Palette.check (.object es) = .sound p) :
  ∃ c color, (h.category? fields = some c ∨ h.category? fields = none ∧ c = .standard)
    ∧ (Document.lookup? es c.name = some (.text (.proper (p.colorFor c)))
      ∨ Document.lookup? es c.name = none ∧ ({} : Palette).colorFor c = p.colorFor c)
    ∧ h.paint fields p = .ok color
    ∧ Color.ofText (p.colorFor c) = .ok color
    ∧ Color.Spells (Color.normal (p.colorFor c).toList) color
    ∧ (color = .default
      ∨ (∃ n, color = .indexed n ∧ n.val ≤ 255)
      ∨ ∃ r g b, color = .mixed r g b ∧ r.val ≤ 255 ∧ g.val ≤ 255 ∧ b.val ≤ 255)
  := by
  set c := (h.category? fields).getD .standard
  obtain ⟨color, hcolor⟩ := Palette.isValid_of_check hp c
  refine ⟨c, color, ?_, ?_, hcolor, hcolor, Color.ofText_eq_ok_iff.mp hcolor, ?_⟩
  · cases hcategory : h.category? fields with
    | none => exact .inr ⟨rfl, by simp [c, hcategory]⟩
    | some c' => exact .inl (by simp [c, hcategory])
  · have hentry := Palette.ofFields_eq_sound_iff.mp hp c
    exact (Palette.entry_eq_sound_iff.mp hentry).imp_left And.left
  · cases color with
    | default => exact .inl rfl
    | indexed n => exact .inr (.inl ⟨n, rfl, Nat.le_of_lt_succ n.isLt⟩)
    | mixed r g b =>
      exact .inr (.inr ⟨r, g, b, rfl, Nat.le_of_lt_succ r.isLt, Nat.le_of_lt_succ g.isLt,
        Nat.le_of_lt_succ b.isLt⟩)

/-- A palette with a mixture for errors, in capitals, between blanks, and with a digit of another
script. -/
def strayEntries : Entries Text.Wording :=
  [("error", .text (.proper " RGB(1,\t\u0662,255) ")), ("note", .int 1)]

theorem paint_of_stray :
  ∃ p, Palette.check (.object strayEntries) = .sound p
    ∧ Header.paint [{ name := "VALID" }, { name := "STATUS" }] ["0/1", "Running"] p
      = .ok (.mixed 1 2 255)
  := by
  have hvalue : Palette.check (.object strayEntries)
      = .sound { error := " RGB(1,\t\u0662,255) " } := by decide +kernel
  refine ⟨_, hvalue, ?_⟩
  obtain ⟨c, color, hcategory, -, hpaint, hcolor, -⟩ :=
    paint_of_check [{ name := "VALID" }, { name := "STATUS" }] ["0/1", "Running"] hvalue
  obtain rfl : c = .error := by
    have herror : Header.category? [{ name := "VALID" }, { name := "STATUS" }] ["0/1", "Running"]
        = some .error := by decide +kernel
    simpa [herror, eq_comm] using hcategory
  have hmixed : Color.ofText " RGB(1,\t\u0662,255) " = .ok (.mixed 1 2 255) := by decide +kernel
  rw [hpaint, ← hcolor]
  exact hmixed

end Header

end PodTable
