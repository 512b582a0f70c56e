import PodTable.Settings.Palette

/-!
# Settings

The settings say whether the table is shown with its wide columns, and in which colors.
-/

namespace PodTable

/-- The settings of the table. -/
structure Settings where
  showWideColumns : Bool := false
  palette : Palette := {}
deriving DecidableEq, Repr

namespace Settings

/-- The record of settings. -/
def encode (s : Settings) : Document Text.Wording :=
  .object [("show_wide_columns", .bool s.showWideColumns), ("palette", s.palette.encode)]

/-- Read whether the wide columns are shown. -/
def wideColumns : Document Text.Wording → Checked Bool := Checked.flagBy Checked.flagOfWording

/-- Read the fields of settings. -/
def ofFields (es : Entries Text.Wording) : Checked Settings :=
  Settings.mk
    <$> Checked.defaulted "show_wide_columns" false wideColumns es
    <*> Checked.defaulted "palette" {} Palette.check es

/-- Read settings. -/
def check : Document Text.Wording → Checked Settings := Checked.record ofFields

end Settings

end PodTable
