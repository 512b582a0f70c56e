import Mathlib.Tactic.Common
import PodTable.Checked.Scalar

/-!
# Records

What is read of a record is read of the entries of its fields. A reader undoes a writer when what is
written of any value is read as this value. Readers of values that may be absent, of lists and of tables
undo their writers when the readers of what is in them do.
-/

namespace PodTable

namespace Checked

variable {α τ : Type} {read : Document τ → Checked α} {write : α → Document τ}

/-- A field that has a default is the entry that is read, or the default where there is none. -/
theorem defaulted_eq_sound_iff {key : String} {default a : α} {es : Entries τ} :
  defaulted key default read es = sound a ↔
    (∃ d, Document.lookup? es key = some d ∧ read d = sound a)
    ∨ (Document.lookup? es key = none ∧ default = a)
  := by
  unfold defaulted
  cases Document.lookup? es key <;> simp [under_eq_sound_iff]

theorem record_eq_sound_iff {read : Entries τ → Checked α} {d : Document τ} {a : α} :
  record read d = sound a ↔ ∃ es, d = .object es ∧ read es = sound a
  := by
  unfold record
  split <;> simp_all [fault]

/-! ### Readers and writers -/

/-- What is written of any value is read as the value. -/
def Undoes (read : Document τ → Checked α) (write : α → Document τ) : Prop :=
  ∀ a, read (write a) = sound a

/-- What is written of a value that was read is read as the value again. -/
def ReadsBack (read : Document τ → Checked α) (write : α → Document τ) : Prop :=
  ∀ d a, read d = sound a → read (write a) = sound a

theorem Undoes.readsBack (h : Undoes read write) :
  ReadsBack read write
  := fun _ a _ => h a

theorem undoes_text :
  Undoes text .text
  := fun _ => rfl

theorem undoes_flag :
  Undoes flag .bool
  := fun _ => rfl

theorem undoes_integer :
  Undoes integer .int
  := fun _ => rfl

theorem undoes_count :
  Undoes count (fun n => .int n)
  := by
  intro n
  simp only [count, integer, andThen, Int.toNat_natCast]
  exact if_neg (Int.not_lt.mpr (Int.natCast_nonneg n))

/-- An absent value is written as null, and no other is. -/
theorem optional_eq_sound {x : Option α} (h : ∀ a, x = some a → read (write a) = sound a)
    (hnull : ∀ a, write a ≠ .null) :
  optional read ((x.map write).getD .null) = sound x
  := by
  cases x with
  | none => rfl
  | some a =>
    rw [Option.map_some, Option.getD_some, Checked.optional, h a rfl]
    · rfl
    · exact hnull a

theorem Undoes.optional (h : Undoes read write) (hnull : ∀ a, write a ≠ .null) (x : Option α) :
  optional read ((x.map write).getD .null) = sound x
  := optional_eq_sound (fun a _ => h a) hnull

/-- What is read as an optional value is read as the value where there is one. -/
theorem of_optional_eq_sound {d : Document τ} {a : α} (h : optional read d = sound (some a)) :
  read d = sound a
  := by
  cases d with
  | null => cases h
  | _ =>
    rw [Checked.optional, map_eq_functorMap, map_eq_sound_iff] at h
    · obtain ⟨_, hread, heq⟩ := h
      cases heq
      exact hread
    · rintro ⟨⟩

theorem Undoes.items (h : Undoes read write) (n : Nat) (as : List α) :
  items read n (as.map write) = sound as
  := by
  induction as generalizing n with
  | nil => rfl
  | cons a as ih =>
    simp only [List.map_cons, Checked.items, h a, ih, under_sound, map_sound, seq_sound]

theorem Undoes.listOf (h : Undoes read write) (as : List α) :
  listOf read (.list (as.map write)) = sound as
  := h.items 0 as

theorem Undoes.tableOf (h : Undoes read write) (as : List (String × α)) :
  tableOf read (.object (as.map (fun e => (e.1, write e.2)))) = sound as
  := by
  rw [Checked.tableOf]
  induction as with
  | nil => rfl
  | cons e as ih =>
    simp only [List.map_cons, values, h e.2, ih, under_sound, map_sound, seq_sound]

end Checked

end PodTable
