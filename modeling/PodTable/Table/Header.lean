/-!
# Headers

A header is a list of columns. A wide column is shown in the wide display only. The position of
a column is counted among the columns that are shown.
-/

namespace PodTable

/-- A column of a table: its name, how it is aligned, and what it depends on. -/
structure Column where
  name : String
  alignRight : Bool := false
  metrics : Bool := false
  wide : Bool := false
  time : Bool := false
deriving DecidableEq, Repr

/-- The columns of a table, from left to right. -/
abbrev Header := List Column

namespace Column

/-- Whether a column is shown in the wide or in the narrow display. -/
def isShown (wide : Bool) (c : Column) : Bool := wide || !c.wide

end Column

namespace Header

/-- The names of the columns. -/
def names (h : Header) : List String := h.map Column.name

/-- The columns that are shown in the wide or in the narrow display. -/
def visible (h : Header) (wide : Bool) : Header := h.filter (Column.isShown wide)

/-- The position of the first shown column of a name, columns that are not shown counting for
nothing. -/
def indexOf? (h : Header) (name : String) (wide : Bool) : Option Nat :=
  match h with
  | [] => none
  | c :: cs =>
    if c.isShown wide then
      if c.name = name then some 0 else (indexOf? cs name wide).map (· + 1)
    else indexOf? cs name wide

/-- The fields of a row under the columns that are shown. -/
def restrict {α : Type} (h : Header) (wide : Bool) (fields : List α) : List α :=
  ((h.zip fields).filter (fun p => p.1.isShown wide)).map (·.2)

/-- The field of a row under the first column of a name. -/
def field? {α : Type} (h : Header) (name : String) (fields : List α) : Option α :=
  (h.indexOf? name true).bind (fun i => fields[i]?)

end Header

end PodTable
