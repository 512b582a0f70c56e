/-!
# Trees of files

A tree has files and directories at places. A place is given by the names on the way to it from
the root, the last one first, and the root is a directory always.

A list of names leads from the root to a place. On the way to it all places have to be
directories, and the name `..` leads back. There need not be anything at the place itself. Names,
and lists of names, have a greatest length in bytes, and no name holds the null character.
-/

namespace PodTable

/-- A place in a tree: the names on the way to it, the last one first. -/
abbrev Place := List String

/-- What stands at a place. -/
inductive FileEntry where
  | file (bytes : ByteArray)
  | directory

/-- Why something cannot be done in a tree. -/
inductive FileTrouble where
  | missing
  | notDirectory
  | isDirectory
  | occupied
  | tooLong
  | nullCharacter
deriving DecidableEq, Repr

/-- What cannot be done, and the names that were to lead to the place. -/
structure FileFailure where
  names : List String
  trouble : FileTrouble
deriving DecidableEq, Repr

/-- A tree of files. -/
structure FileTree where
  entries : List (Place × FileEntry) := []

namespace FileTree

/-- What stands at a place. -/
def occupant? (t : FileTree) : Place → Option FileEntry
  | [] => some .directory
  | p => t.entries.lookup p

/-- The tree with `e` at the place `p`. -/
def put (t : FileTree) (p : Place) (e : FileEntry) : FileTree :=
  { t with entries := (p, e) :: t.entries }

/-- The tree without what stands at and below a place. -/
def removeAt (t : FileTree) (p : Place) : FileTree :=
  { t with entries := t.entries.filter (fun e => !p.isSuffixOf e.1) }

/-- The greatest number of bytes of a name. -/
def nameLimit : Nat := 255

/-- The greatest number of bytes of a list of names with a separator before each of them. -/
def namesLimit : Nat := 4095

/-- The place that names lead to from the place `p`. -/
def walk (t : FileTree) (p : Place) : List String → Except FileTrouble Place
  | [] => .ok p
  | name :: names =>
    match t.occupant? p with
    | some .directory =>
      if nameLimit < name.utf8ByteSize then .error .tooLong
      else walk t (if name = ".." then p.tail else name :: p) names
    | some (.file _) => .error .notDirectory
    | none => .error .missing

/-- Whether a name holds the null character. -/
def holdsNull (name : String) : Bool := name.toList.contains (Char.ofNat 0)

/-- The place that names lead to from the root. -/
def resolve (t : FileTree) (names : List String) : Except FileTrouble Place :=
  if names.any holdsNull then .error .nullCharacter
  else if namesLimit < names.foldr (fun n size => n.utf8ByteSize + 1 + size) 0 then .error .tooLong
  else t.walk [] names

/-- What stands at the place that names lead to. -/
def find (t : FileTree) (names : List String) : Except FileTrouble FileEntry := do
  match t.occupant? (← t.resolve names) with
  | some e => .ok e
  | none => .error .missing

/-- Whether names lead to a directory. -/
def isDirectory (t : FileTree) (names : List String) : Bool :=
  match t.find names with
  | .ok .directory => true
  | _ => false

/-- The tree with a new directory at the place that names lead to. -/
def makeDirectory (t : FileTree) (names : List String) : Except FileTrouble FileTree := do
  let p ← t.resolve names
  match t.occupant? p with
  | some _ => .error .occupied
  | none => .ok (t.put p .directory)

/-- Make a directory unless there is one, and before it those on the way to it. The names are
given the last one first. What is made before there is trouble stays. -/
def makeDirectories (t : FileTree) : List String → FileTree × Option FileFailure
  | [] => (t, none)
  | name :: outer =>
    let names := (name :: outer).reverse
    let give (t : FileTree) (e : FileTrouble) : FileTree × Option FileFailure :=
      (t, if t.isDirectory names then none else some ⟨names, e⟩)
    match t.makeDirectory names with
    | .ok t => (t, none)
    | .error .missing =>
      match makeDirectories t outer with
      | (t, some f) => (t, some f)
      | (t, none) =>
        match t.makeDirectory names with
        | .ok t => (t, none)
        | .error e => give t e
    | .error e => give t e

/-- The tree with a file at the place that names lead to, in place of any file there. -/
def writeFile (t : FileTree) (names : List String) (bytes : ByteArray) :
    Except FileTrouble FileTree := do
  let p ← t.resolve names
  match t.occupant? p with
  | some .directory => .error .isDirectory
  | _ => .ok (t.put p (.file bytes))

/-- The tree without what stands at and below the place that names lead to. -/
def remove (t : FileTree) (names : List String) : FileTree :=
  match t.resolve names with
  | .ok p => t.removeAt p
  | .error _ => t

theorem occupant?_put (t : FileTree) {p : Place} (h : p ≠ []) (e : FileEntry) :
  (t.put p e).occupant? p = some e
  := by
  cases p with
  | nil => contradiction
  | cons n p => simp [put, occupant?]

theorem occupant?_put_ne (t : FileTree) {p q : Place} (h : q ≠ p) (e : FileEntry) :
  (t.put p e).occupant? q = t.occupant? q
  := by
  cases q with
  | nil => rfl
  | cons n q =>
    have : (n :: q == p) = false := by simpa using h
    simp only [put, occupant?, List.lookup_cons, this]

end FileTree

end PodTable
