import PodTable.Text.Split

/-!
# Paths

A path is a list of names, which leads from a root or from the working directory to a file. The
name `..` leads to the directory around the one reached so far, and a path keeps it. Empty names
and the name `.` lead nowhere, and a path does not keep them.

A path that starts with exactly two slashes has a root of its own.
-/

namespace PodTable

/-- Where a path starts. -/
inductive Anchor where
  | working
  | root
  | doubleRoot
deriving DecidableEq, Repr

/-- A path. -/
structure Path where
  anchor : Anchor
  names : List String
deriving DecidableEq, Repr

namespace Anchor

/-- The text of an anchor. -/
def text : Anchor → String
  | working => ""
  | root => "/"
  | doubleRoot => "//"

/-- The anchor of a path that starts with `n` slashes. -/
def ofSlashes (n : Nat) : Anchor := if n = 0 then working else if n = 2 then doubleRoot else root

end Anchor

namespace Path

/-- The text of a path. -/
def text (p : Path) : String :=
  if p.anchor = .working ∧ p.names = [] then "."
  else p.anchor.text ++ "/".intercalate p.names

/-- The path that a text denotes. -/
def ofText (s : String) : Path where
  anchor := Anchor.ofSlashes (s.toList.takeWhile (· == '/')).length
  names := ((Text.split '/' s.toList).map String.ofList).filter (fun n => n != "" && n != ".")

/-- The path `p` and then the names of `q`. -/
def append (p q : Path) : Path := { p with names := p.names ++ q.names }

/-- A text without slashes at its end, or a single slash if nothing else is left. -/
def withoutEnd (s : String) : String :=
  let cs := (s.toList.reverse.dropWhile (· == '/')).reverse
  if cs.isEmpty then "/" else String.ofList cs

/-- The home directory that a tilde with the name of an account stands for. Only that of the
administrator is known. -/
def homeOfAccount? (name : String) : Option String :=
  if name = "~root" then some "/root" else none

/-- The home directory that the first name of a path stands for. A directory whose text starts
with a tilde is none. -/
def homeDirectory? (home name : String) : Option String :=
  if name = "~" then
    let home := withoutEnd home
    if home.toList.head? = some '~' then none else some home
  else homeOfAccount? name

/-- The path with a home directory in place of a tilde at its start. -/
def expandHome? (home : String) (p : Path) : Option Path :=
  match p.anchor, p.names with
  | .working, name :: names =>
    if name.toList.head? = some '~' then
      (homeDirectory? home name).map (fun home => (ofText home).append ⟨.working, names⟩)
    else some p
  | _, _ => some p

end Path

end PodTable
