import PodTable.Document

/-!
# Checked reading of documents

A reader takes a document to a value or to the list of all faults in it. A `Fault` says where it
is, by the names and positions on the way to it, and what is wrong there. Readers of independent
parts are combined by application, which collects the faults of both sides in order.

The functions `Checked.required`, `Checked.defaulted`, `Checked.listOf` and `Checked.tableOf`
read the fields of a record, the items of a list and the values of a table.
-/

namespace PodTable

/-- One step on the way to a part of a document. -/
inductive Step where
  | name (key : String)
  | index (position : Nat)
deriving DecidableEq, Repr

/-- What is wrong with a part of a document. -/
inductive Mismatch where
  | missing
  | notRecord
  | notTaggedRecord
  | noTag
  | unknownTag
  | notText
  | brokenText
  | notInteger
  | unreadableInteger
  | fractionalInteger
  | oversizedInteger
  | infiniteInteger
  | belowMinimum
  | notFlag
  | unreadableFlag
  | notList
  | notTable
  | notTime
  | unreadableTime
  | timeOutOfRange
  | refused (reason : String)
deriving DecidableEq, Repr

/-- A fault and the way to it. -/
structure Fault where
  path : List Step
  mismatch : Mismatch
deriving DecidableEq, Repr

/-- A value read from a document, or all faults in the document. -/
inductive Checked (α : Type) where
  | sound (value : α)
  | faulty (faults : List Fault)
deriving DecidableEq, Repr

namespace Checked

variable {α β τ : Type}

/-- The document itself is at fault. -/
def fault (m : Mismatch) : Checked α := faulty [⟨[], m⟩]

/-- The value read, if there are no faults. -/
def value? : Checked α → Option α
  | sound a => some a
  | faulty _ => none

/-- The faults found. -/
def faults : Checked α → List Fault
  | sound _ => []
  | faulty fs => fs

/-- Apply a function to the value read. -/
def map (f : α → β) : Checked α → Checked β
  | sound a => sound (f a)
  | faulty fs => faulty fs

/-- Apply a function read to a value read, collecting the faults of both. -/
def apply : Checked (α → β) → Checked α → Checked β
  | sound f, sound a => sound (f a)
  | sound _, faulty gs => faulty gs
  | faulty fs, sound _ => faulty fs
  | faulty fs, faulty gs => faulty (fs ++ gs)

instance : Applicative Checked where
  pure := sound
  seq f x := apply f (x ())

/-- Check a value further once it is read. -/
def andThen (x : Checked α) (f : α → Checked β) : Checked β :=
  match x with
  | sound a => f a
  | faulty fs => faulty fs

/-- The same reading of a part of a larger document, one step away. -/
def under (s : Step) : Checked α → Checked α
  | sound a => sound a
  | faulty fs => faulty (fs.map (fun f => { f with path := s :: f.path }))

/-- Read a record from its entries. -/
def record (read : Entries τ → Checked α) : Document τ → Checked α
  | .object entries => read entries
  | _ => fault .notRecord

/-- Read a field that has to be present. -/
def required (key : String) (read : Document τ → Checked α) (entries : Entries τ) : Checked α :=
  match Document.lookup? entries key with
  | some d => (read d).under (.name key)
  | none => (fault .missing).under (.name key)

/-- Read a field that has a default. -/
def defaulted (key : String) (default : α) (read : Document τ → Checked α)
    (entries : Entries τ) : Checked α :=
  match Document.lookup? entries key with
  | some d => (read d).under (.name key)
  | none => sound default

/-- Read null as the absence of a value. -/
def optional (read : Document τ → Checked α) : Document τ → Checked (Option α)
  | .null => sound none
  | d => (read d).map some

/-- Read the items of a list, the first of which stands at position `n`. -/
def items (read : Document τ → Checked α) (n : Nat) : List (Document τ) → Checked (List α)
  | [] => sound []
  | d :: ds => List.cons <$> (read d).under (.index n) <*> items read (n + 1) ds

/-- Read a list. -/
def listOf (read : Document τ → Checked α) : Document τ → Checked (List α)
  | .list ds => items read 0 ds
  | _ => fault .notList

/-- Read the values of the entries of a table. -/
def values (read : Document τ → Checked α) : Entries τ → Checked (List (String × α))
  | [] => sound []
  | (k, d) :: es =>
    (fun a as => (k, a) :: as) <$> (read d).under (.name k) <*> values read es

/-- Read a table of values of one kind. -/
def tableOf (read : Document τ → Checked α) : Document τ → Checked (List (String × α))
  | .object es => values read es
  | _ => fault .notTable

@[simp]
theorem map_sound (f : α → β) (a : α) :
  f <$> (sound a : Checked α) = sound (f a)
  := rfl

@[simp]
theorem seq_sound (f : α → β) (a : α) :
  (sound f : Checked (α → β)) <*> sound a = sound (f a)
  := rfl

@[simp]
theorem under_sound (s : Step) (a : α) :
  (sound a : Checked α).under s = sound a
  := rfl

theorem map_eq_functorMap (f : α → β) (x : Checked α) :
  x.map f = f <$> x
  := by
  cases x <;> rfl

theorem map_eq_sound_iff {f : α → β} {x : Checked α} {b : β} :
  f <$> x = sound b ↔ ∃ a, x = sound a ∧ f a = b
  := by
  cases x <;> simp [Functor.map, apply]

/-- A reading by application is sound when both parts are. -/
theorem seq_eq_sound_iff {f : Checked (α → β)} {x : Checked α} {b : β} :
  f <*> x = sound b ↔ ∃ g a, f = sound g ∧ x = sound a ∧ g a = b
  := by
  cases f <;> cases x <;> simp [Seq.seq, apply]

theorem under_eq_sound_iff {s : Step} {x : Checked α} {a : α} :
  x.under s = sound a ↔ x = sound a
  := by
  cases x <;> simp [under]

end Checked

end PodTable
