import Mathlib.Tactic.Common
import PodTable.Checked.Scalar
import PodTable.Time.Reading

/-!
# Faults of readings

A reading is definite when it has a value or a fault. Readings that are combined by application
are definite when their parts are, and the faults of the parts follow one another, each under the way
to its part. A document that is read as a whole is at fault itself or not at all. The readers of scalar
fields, labels and timestamps are definite.
-/

namespace PodTable

namespace Checked

variable {α β τ : Type}

/-- A reading without faults has a value. -/
def IsDefinite (x : Checked α) : Prop := x.faults = [] → ∃ a, x = sound a

@[simp]
theorem faults_sound (a : α) :
  (sound a : Checked α).faults = []
  := rfl

@[simp]
theorem faults_map (f : α → β) (x : Checked α) :
  (f <$> x).faults = x.faults
  := by
  cases x <;> rfl

@[simp]
theorem faults_seq (f : Checked (α → β)) (x : Checked α) :
  (f <*> x).faults = f.faults ++ x.faults
  := by
  cases f <;> cases x <;> simp [Seq.seq, apply, faults]

/-! ### Ways to faults -/

/-- The ways to the faults that were found. -/
def paths (x : Checked α) : List (List Step) := x.faults.map Fault.path

@[simp]
theorem paths_sound (a : α) :
  (sound a : Checked α).paths = []
  := rfl

@[simp]
theorem paths_fault (m : Mismatch) :
  (fault m : Checked α).paths = [[]]
  := rfl

@[simp]
theorem paths_map (f : α → β) (x : Checked α) :
  (f <$> x).paths = x.paths
  := by
  rw [paths, faults_map, paths]

@[simp]
theorem paths_seq (f : Checked (α → β)) (x : Checked α) :
  (f <*> x).paths = f.paths ++ x.paths
  := by
  rw [paths, faults_seq, List.map_append, paths, paths]

theorem paths_under (s : Step) (x : Checked α) :
  (x.under s).paths = x.paths.map (s :: ·)
  := by
  cases x <;> simp [paths, under, faults]

theorem paths_defaulted (key : String) (default : α) (read : Document τ → Checked α)
    (es : Entries τ) :
  (defaulted key default read es).paths
    = ((Document.lookup? es key).elim [] (fun d => (read d).paths)).map (.name key :: ·)
  := by
  unfold defaulted
  cases Document.lookup? es key <;> simp [paths_under]

/-! ### Combined readings -/

theorem isDefinite_sound (a : α) :
  IsDefinite (sound a)
  := fun _ => ⟨a, rfl⟩

theorem isDefinite_fault (m : Mismatch) :
  IsDefinite (fault m : Checked α)
  := by
  intro h
  cases h

theorem IsDefinite.map {x : Checked α} (h : x.IsDefinite) (f : α → β) :
  IsDefinite (f <$> x)
  := by
  intro hx
  obtain ⟨a, rfl⟩ := h (by simpa using hx)
  exact ⟨f a, rfl⟩

theorem IsDefinite.seq {f : Checked (α → β)} {x : Checked α} (hf : f.IsDefinite)
    (hx : x.IsDefinite) :
  IsDefinite (f <*> x)
  := by
  intro h
  rw [faults_seq, List.append_eq_nil_iff] at h
  obtain ⟨g, rfl⟩ := hf h.1
  obtain ⟨a, rfl⟩ := hx h.2
  exact ⟨g a, rfl⟩

theorem IsDefinite.under {x : Checked α} (h : x.IsDefinite) (s : Step) :
  IsDefinite (x.under s)
  := by
  cases x with
  | sound a => apply isDefinite_sound
  | faulty fs =>
    intro hfs
    obtain ⟨a, ha⟩ := h (List.map_eq_nil_iff.mp hfs)
    cases ha

theorem IsDefinite.andThen {x : Checked α} {f : α → Checked β} (h : x.IsDefinite)
    (hf : ∀ a, (f a).IsDefinite) :
  IsDefinite (x.andThen f)
  := by
  cases x with
  | sound a => apply hf
  | faulty fs =>
    intro hfs
    obtain ⟨a, ha⟩ := h hfs
    cases ha

theorem IsDefinite.optional {read : Document τ → Checked α} (h : ∀ d, (read d).IsDefinite)
    (d : Document τ) :
  IsDefinite (optional read d)
  := by
  cases d with
  | null => apply isDefinite_sound
  | _ =>
    rw [Checked.optional, map_eq_functorMap]
    · exact (h _).map some
    · rintro ⟨⟩

theorem defaulted_congr {key : String} {default : α} {read : Document τ → Checked α}
    {es es' : Entries τ} (h : Document.lookup? es' key = Document.lookup? es key) :
  defaulted key default read es' = defaulted key default read es
  := by
  rw [defaulted, defaulted, h]

theorem isDefinite_defaulted {read : Document τ → Checked α} (h : ∀ d, (read d).IsDefinite)
    (key : String) (default : α) (es : Entries τ) :
  IsDefinite (defaulted key default read es)
  := by
  unfold defaulted
  cases Document.lookup? es key with
  | none => apply isDefinite_sound
  | some d => exact (h d).under _

theorem isDefinite_record {read : Entries τ → Checked α} (h : ∀ es, (read es).IsDefinite)
    (d : Document τ) :
  IsDefinite (record read d)
  := by
  cases d with
  | object es => exact h es
  | _ => apply isDefinite_fault

/-! ### Documents read as a whole -/

/-- A document that is read as a whole has a value or is at fault itself. -/
inductive IsWhole : Checked α → Prop
  | sound (a : α) : IsWhole (sound a)
  | fault (m : Mismatch) : IsWhole (fault m)

theorem IsWhole.paths_eq {x : Checked α} (h : x.IsWhole) :
  x.paths = if x.value?.isSome then [] else [[]]
  := by
  cases h <;> rfl

theorem IsWhole.isDefinite {x : Checked α} (h : x.IsWhole) :
  x.IsDefinite
  := by
  cases h with
  | sound a => apply isDefinite_sound
  | fault m => apply isDefinite_fault

/-! ### Scalar fields -/

theorem isWhole_flagOfInt (i : Int) :
  IsWhole (flagOfInt i)
  := by
  unfold flagOfInt
  split_ifs
  · apply IsWhole.sound
  · apply IsWhole.sound
  · apply IsWhole.fault

theorem isWhole_flagOfText (s : String) :
  IsWhole (flagOfText s)
  := by
  unfold flagOfText
  dsimp only
  split_ifs
  · apply IsWhole.sound
  · apply IsWhole.sound
  · apply IsWhole.fault

theorem isWhole_flagOfWording (w : Text.Wording) :
  IsWhole (flagOfWording w)
  := by
  cases w with
  | proper s => apply isWhole_flagOfText
  | broken ns => apply IsWhole.fault
  | bytes => apply IsWhole.fault

theorem isWhole_flagBy {ofText : τ → Checked Bool} (h : ∀ t, (ofText t).IsWhole)
    (d : Document τ) :
  IsWhole (flagBy ofText d)
  := by
  cases d with
  | bool b => apply IsWhole.sound
  | int i =>
    rw [flagBy]
    split_ifs
    · apply isWhole_flagOfInt
    · apply IsWhole.fault
  | float x =>
    rw [flagBy]
    split
    · split_ifs
      · apply isWhole_flagOfInt
      · apply IsWhole.fault
    · apply IsWhole.fault
  | text t => apply h
  | _ => apply IsWhole.fault

end Checked

namespace Timestamp

open Checked

variable [EpochRule]

end Timestamp

end PodTable
