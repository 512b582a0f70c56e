import PodTable.Checked.Scalar
import PodTable.Color.Basic

/-!
# Palettes

A row of the table is painted in the color of its category. A palette gives the text of a color
for each category. A palette that is read has texts that denote colors, and keeps them as they
are written. It is read from a document with a wording where a text is meant.
-/

namespace PodTable

/-- What a row is painted for. -/
inductive Category where
  | pending
  | creating
  | highlight
  | completed
  | standard
  | error
  | kill
deriving DecidableEq, Repr

/-- The color texts of the categories. -/
structure Palette where
  pending : String := "dark_orange"
  creating : String := "dodger_blue1"
  highlight : String := "aquamarine1"
  completed : String := "light_slate_grey"
  standard : String := "light_sky_blue1"
  error : String := "orange_red1"
  kill : String := "medium_purple"
deriving DecidableEq, Repr

namespace Category

/-- All categories. -/
def all : List Category := [pending, creating, highlight, completed, standard, error, kill]

/-- The name of a category. -/
def name : Category → String
  | pending => "pending"
  | creating => "creating"
  | highlight => "highlight"
  | completed => "completed"
  | standard => "standard"
  | error => "error"
  | kill => "kill"

end Category

namespace Palette

/-- The color text of a category. -/
def colorFor (p : Palette) : Category → String
  | .pending => p.pending
  | .creating => p.creating
  | .highlight => p.highlight
  | .completed => p.completed
  | .standard => p.standard
  | .error => p.error
  | .kill => p.kill

/-- The record of a palette. -/
def encode (p : Palette) : Document Text.Wording :=
  .object (Category.all.map (fun c => (c.name, .text (.proper (p.colorFor c)))))

/-- Read a wording that denotes a color. -/
def colorOfWording : Text.Wording → Checked String
  | .proper s =>
    match Color.ofText s with
    | .ok _ => .sound s
    | .error f => .fault (.refused f.message)
  | .broken ns => .fault (.refused (ColorFault.unknown ns).message)
  | .bytes => .fault .brokenText

/-- Read a text that denotes a color. -/
def colorText : Document Text.Wording → Checked String
  | .text w => colorOfWording w
  | _ => .fault .notText

/-- Read the color text of a category, which has a default. -/
def entry (c : Category) (es : Entries Text.Wording) : Checked String :=
  Checked.defaulted c.name (({} : Palette).colorFor c) colorText es

/-- Read the fields of a palette. -/
def ofFields (es : Entries Text.Wording) : Checked Palette :=
  Palette.mk
    <$> entry .pending es
    <*> entry .creating es
    <*> entry .highlight es
    <*> entry .completed es
    <*> entry .standard es
    <*> entry .error es
    <*> entry .kill es

/-- Read a palette. -/
def check : Document Text.Wording → Checked Palette := Checked.record ofFields

end Palette

end PodTable
