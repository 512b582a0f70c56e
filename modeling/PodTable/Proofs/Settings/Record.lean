import PodTable.Proofs.Checked.Record
import PodTable.Settings.Basic

/-!
# Records of settings

A palette can be read from a document exactly when the text of each category denotes a color, and
settings when their palette can. The record of such settings is read as the same settings.
-/

namespace PodTable

namespace Palette

/-- The text of each category denotes a color. -/
def IsValid (p : Palette) : Prop := ∀ c, ∃ color, Color.ofText (p.colorFor c) = .ok color

/-- The default texts denote colors. -/
theorem isValid_default :
  IsValid {}
  := by
  intro c
  cases c <;> exact ⟨_, rfl⟩

theorem colorOfWording_eq_sound_iff {w : Text.Wording} {s : String} :
  colorOfWording w = .sound s ↔ w = .proper s ∧ ∃ color, Color.ofText s = .ok color
  := by
  constructor
  · intro h
    unfold colorOfWording at h
    split at h
    · split at h
      · rename_i hcolor
        cases h
        exact ⟨rfl, _, hcolor⟩
      · cases h
    · cases h
    · cases h
  · rintro ⟨rfl, color, hcolor⟩
    simp only [colorOfWording, hcolor]

/-- A text that denotes a color is kept as it is written. -/
theorem colorText_eq_sound_iff {d : Document Text.Wording} {s : String} :
  colorText d = .sound s ↔ d = .text (.proper s) ∧ ∃ color, Color.ofText s = .ok color
  := by
  cases d with
  | text w => simp only [colorText, colorOfWording_eq_sound_iff, Document.text.injEq]
  | _ => simp [colorText, Checked.fault]

/-- The text of a category is the one that is written, or the default where none is. -/
theorem entry_eq_sound_iff {c : Category} {es : Entries Text.Wording} {s : String} :
  entry c es = .sound s ↔
    (Document.lookup? es c.name = some (.text (.proper s)) ∧ ∃ color, Color.ofText s = .ok color)
    ∨ (Document.lookup? es c.name = none ∧ ({} : Palette).colorFor c = s)
  := by
  simp only [entry, Checked.defaulted_eq_sound_iff, colorText_eq_sound_iff]
  grind

/-- A palette is read by its categories. -/
theorem ofFields_eq_sound_iff {es : Entries Text.Wording} {p : Palette} :
  ofFields es = .sound p ↔ ∀ c, entry c es = .sound (p.colorFor c)
  := by
  simp only [ofFields, Checked.seq_eq_sound_iff, Checked.map_eq_sound_iff]
  constructor
  · rintro ⟨_, _, ⟨_, _, ⟨_, _, ⟨_, _, ⟨_, _, ⟨_, _, ⟨_, h₁, rfl⟩, h₂, rfl⟩, h₃, rfl⟩, h₄, rfl⟩,
      h₅, rfl⟩, h₆, rfl⟩, h₇, rfl⟩ c
    cases c <;> assumption
  · intro h
    exact ⟨_, _, ⟨_, _, ⟨_, _, ⟨_, _, ⟨_, _, ⟨_, _, ⟨_, h .pending, rfl⟩, h .creating, rfl⟩,
      h .highlight, rfl⟩, h .completed, rfl⟩, h .standard, rfl⟩, h .error, rfl⟩, h .kill, rfl⟩

theorem isValid_of_check {d : Document Text.Wording} {p : Palette} (h : check d = .sound p) :
  p.IsValid
  := by
  obtain ⟨es, -, hfields⟩ := Checked.record_eq_sound_iff.mp h
  intro c
  obtain ⟨-, hcolor⟩ | ⟨-, hdefault⟩ := entry_eq_sound_iff.mp (ofFields_eq_sound_iff.mp hfields c)
  · exact hcolor
  · rw [← hdefault]
    exact isValid_default c

/-- A palette is read from its own record. -/
theorem check_encode {p : Palette} (h : p.IsValid) :
  check p.encode = .sound p
  := by
  apply ofFields_eq_sound_iff.mpr
  intro c
  refine entry_eq_sound_iff.mpr (.inl ⟨?_, h c⟩)
  cases c <;> rfl

end Palette

namespace Settings

/-- The settings are read from some document. -/
def IsValid (s : Settings) : Prop := ∃ d, check d = .sound s

theorem ofFields_eq_sound_iff {es : Entries Text.Wording} {s : Settings} :
  ofFields es = .sound s ↔
    Checked.defaulted "show_wide_columns" false wideColumns es = .sound s.showWideColumns
    ∧ Checked.defaulted "palette" {} Palette.check es = .sound s.palette
  := by
  simp only [ofFields, Checked.seq_eq_sound_iff, Checked.map_eq_sound_iff]
  constructor
  · rintro ⟨_, _, ⟨_, hwide, rfl⟩, hpalette, rfl⟩
    exact ⟨hwide, hpalette⟩
  · rintro ⟨hwide, hpalette⟩
    exact ⟨_, _, ⟨_, hwide, rfl⟩, hpalette, rfl⟩

/-- Settings are read from their own record when their palette is valid. -/
theorem check_encode {s : Settings} (h : s.palette.IsValid) :
  check s.encode = .sound s
  := by
  apply ofFields_eq_sound_iff.mpr
  constructor
  · exact Checked.defaulted_eq_sound_iff.mpr (.inl ⟨.bool s.showWideColumns, rfl, rfl⟩)
  · exact Checked.defaulted_eq_sound_iff.mpr
      (.inl ⟨s.palette.encode, rfl, Palette.check_encode h⟩)

theorem isValid_iff {s : Settings} :
  s.IsValid ↔ s.palette.IsValid
  := by
  constructor
  · rintro ⟨d, hd⟩
    obtain ⟨es, -, hfields⟩ := Checked.record_eq_sound_iff.mp hd
    obtain ⟨d', -, hd'⟩ | ⟨-, hdefault⟩ :=
      Checked.defaulted_eq_sound_iff.mp (ofFields_eq_sound_iff.mp hfields).2
    · exact Palette.isValid_of_check hd'
    · rw [← hdefault]
      exact Palette.isValid_default
  · intro h
    exact ⟨s.encode, check_encode h⟩

end Settings

end PodTable
