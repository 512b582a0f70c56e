import Mathlib.Tactic.Common
import PodTable.Pod.Source

/-!
# Failures to read reported documents

`FailsOnly P x` holds when `x` has a value or fails with a failure that has the property `P`. The
readers of the parts of a document fail only with errors of the document and with faults of
records, and the readers of whole documents fail only with errors: every refused amount and every
fault is given to an owner on the way.
-/

namespace PodTable

/-- Whatever `x` fails with has the property `P`. -/
def FailsOnly {α : Type} (P : Failure → Prop) (x : Except Failure α) : Prop :=
  ∀ f, x = .error f → P f

namespace Failure

/-- The failure is an error of a document. -/
def IsError (f : Failure) : Prop := ∃ e, f = unreadable e

/-- The failure is a refused amount. -/
def IsRefusal (f : Failure) : Prop := ∃ r, f = refused r

/-- The failure is an error of a document, or the faults of a record. -/
def IsReading (f : Failure) : Prop := f.IsError ∨ ∃ record faults, f = invalid record faults

end Failure

namespace FailsOnly

variable {α β : Type} {P Q : Failure → Prop} {x : Except Failure α}

theorem ok (a : α) :
  FailsOnly P (.ok a)
  := by
  intro f h
  cases h

theorem error {f : Failure} (h : P f) :
  FailsOnly P (.error f : Except Failure α)
  := by
  intro g hg
  cases hg
  apply h

theorem bind {k : α → Except Failure β} (h : FailsOnly P x) (hk : ∀ a, FailsOnly P (k a)) :
  FailsOnly P (x >>= k)
  := by
  cases x with
  | error f =>
    intro g hg
    cases hg
    apply h f rfl
  | ok a => apply hk a

theorem map (k : α → β) (h : FailsOnly P x) :
  FailsOnly P (x.map k)
  := by
  cases x with
  | error f =>
    intro g hg
    cases hg
    apply h f rfl
  | ok a => apply ok

/-- An error of a document is a failure to read. -/
theorem reading (h : FailsOnly Failure.IsError x) :
  FailsOnly Failure.IsReading x
  := by
  intro f hf
  left
  apply h f hf

/-- A refused amount becomes an error of an owner. -/
theorem blameRefusal (owner : Owner) (h : FailsOnly Failure.IsRefusal x) :
  FailsOnly Failure.IsError (x.mapError (Failure.blameRefusal owner))
  := by
  cases x with
  | error f =>
    obtain ⟨r, rfl⟩ := h f rfl
    exact error ⟨_, rfl⟩
  | ok a => apply ok

/-- The faults of a record become an error of an owner. -/
theorem blameFaults (owner : Owner) (h : FailsOnly Failure.IsReading x) :
  FailsOnly Failure.IsError (x.mapError (Failure.blameFaults owner))
  := by
  cases x with
  | error f =>
    obtain ⟨e, rfl⟩ | ⟨record, faults, rfl⟩ := h f rfl
    · exact error ⟨_, rfl⟩
    · exact error ⟨_, rfl⟩
  | ok a => apply ok

end FailsOnly

namespace Source

open Failure

variable {α : Type} (owner : Owner) (es : Entries)

theorem failsOnly_fail (e : SourceError) :
  FailsOnly IsError (fail e : Except Failure α)
  := FailsOnly.error ⟨e, rfl⟩

theorem failsOnly_settle (record : RecordKind) (x : Checked α) :
  FailsOnly IsReading (settle record x)
  := by
  cases x with
  | sound a => apply FailsOnly.ok
  | faulty faults => exact FailsOnly.error (.inr ⟨record, faults, rfl⟩)

/-! ### Sections and lists -/

theorem failsOnly_sectionOf (key : String) :
  FailsOnly IsError (sectionOf owner es key)
  := by
  unfold sectionOf
  split
  · apply FailsOnly.ok
  · apply FailsOnly.ok
  · apply FailsOnly.ok
  · apply failsOnly_fail

theorem failsOnly_objects (key : String) (n : Nat) (ds : List Document) :
  FailsOnly IsError (objects owner key n ds)
  := by
  induction ds generalizing n with
  | nil => apply FailsOnly.ok
  | cons d ds ih =>
    cases d with
    | object es =>
      apply FailsOnly.map
      apply ih
    | _ => apply failsOnly_fail

theorem failsOnly_entriesOf (key : String) :
  FailsOnly IsError (entriesOf owner es key)
  := by
  unfold entriesOf
  split
  · apply FailsOnly.ok
  · apply FailsOnly.ok
  · apply failsOnly_objects
  · apply failsOnly_fail

theorem failsOnly_readEach {P : Failure → Prop} {read : Nat → Entries → Except Failure α}
    (h : ∀ n es, FailsOnly P (read n es)) (n : Nat) (ess : List Entries) :
  FailsOnly P (readEach read n ess)
  := by
  induction ess generalizing n with
  | nil => apply FailsOnly.ok
  | cons es ess ih =>
    apply FailsOnly.bind (h n es)
    intro a
    apply FailsOnly.bind (ih (n + 1))
    intro as
    apply FailsOnly.ok

theorem failsOnly_readList {read : Owner → Entries → Except Failure α} (key : String)
    (part : Nat → Part) (h : ∀ owner es, FailsOnly IsReading (read owner es)) :
  FailsOnly IsReading (readList owner es key part read)
  := by
  apply FailsOnly.bind (failsOnly_entriesOf owner es key).reading
  intro ess
  apply failsOnly_readEach
  intro n es
  apply h

/-! ### Amounts and containers -/

theorem failsOnly_amountOf? (measure : Document → Except Quantity.Refusal Int) (key : String) :
  FailsOnly IsRefusal (amountOf? measure es key)
  := by
  unfold amountOf?
  split
  · apply FailsOnly.ok
  · rename_i d _
    cases measure d with
    | ok i => apply FailsOnly.ok
    | error r => exact FailsOnly.error ⟨r, rfl⟩

/-- A refused amount becomes an error of the part that holds it. -/
theorem failsOnly_amounts :
  FailsOnly IsError (amounts owner es)
  := by
  apply FailsOnly.blameRefusal
  apply FailsOnly.bind (failsOnly_amountOf? es _ _)
  intro cpu
  apply FailsOnly.bind (failsOnly_amountOf? es _ _)
  intro memory
  apply FailsOnly.ok

theorem failsOnly_resources (d : Option Document) :
  FailsOnly IsError (resources owner d)
  := by
  unfold resources
  split
  · apply FailsOnly.ok
  · apply FailsOnly.ok
  · apply FailsOnly.bind (failsOnly_amounts owner _)
    intro a
    apply FailsOnly.ok
  · apply failsOnly_fail

theorem failsOnly_container :
  FailsOnly IsReading (container owner es)
  := by
  apply FailsOnly.bind (failsOnly_sectionOf owner es _).reading
  intro rs
  apply FailsOnly.bind (failsOnly_resources _ _).reading
  intro requests
  apply FailsOnly.bind (failsOnly_resources _ _).reading
  intro limits
  apply failsOnly_settle

/-! ### Statuses -/

theorem failsOnly_state :
  FailsOnly IsReading (state owner es)
  := by
  have hsection (es : Entries) (key : String) : FailsOnly IsReading (sectionOf owner es key) :=
    (failsOnly_sectionOf owner es key).reading
  apply FailsOnly.bind (hsection es _)
  intro ss
  split
  · apply FailsOnly.bind (hsection ss _)
    intro details
    apply FailsOnly.map
    apply failsOnly_settle
  split
  · apply FailsOnly.bind (hsection ss _)
    intro details
    apply FailsOnly.map
    apply failsOnly_settle
  split
  · apply FailsOnly.bind (hsection ss _)
    intro details
    apply FailsOnly.ok
  · apply FailsOnly.ok

theorem failsOnly_containerStatus :
  FailsOnly IsReading (containerStatus owner es)
  := by
  apply FailsOnly.bind (failsOnly_state owner es)
  intro s
  apply failsOnly_settle

/-! ### Whole documents -/

theorem failsOnly_podOfSections [EpochRule] (metadata spec status : Entries) :
  FailsOnly IsReading (podOfSections owner metadata spec status)
  := by
  apply FailsOnly.bind (failsOnly_readList owner spec _ _ failsOnly_container)
  intro containers
  apply FailsOnly.bind (failsOnly_readList owner spec _ _ failsOnly_container)
  intro initContainers
  apply FailsOnly.bind (failsOnly_readList owner status _ _ failsOnly_containerStatus)
  intro statuses
  apply FailsOnly.bind (failsOnly_readList owner status _ _ failsOnly_containerStatus)
  intro initStatuses
  apply failsOnly_settle

/-- A pod is read, or its document has an error. -/
theorem failsOnly_pod [EpochRule] (d : Document) :
  FailsOnly IsError (pod d)
  := by
  cases d with
  | object es =>
    apply FailsOnly.bind (failsOnly_sectionOf _ es _)
    intro metadata
    apply FailsOnly.bind (failsOnly_sectionOf _ es _)
    intro spec
    apply FailsOnly.bind (failsOnly_sectionOf _ es _)
    intro status
    apply FailsOnly.blameFaults
    apply failsOnly_podOfSections
  | _ => apply failsOnly_fail

theorem failsOnly_containerUsage :
  FailsOnly IsReading (containerUsage owner es)
  := by
  apply FailsOnly.bind (failsOnly_sectionOf owner es _).reading
  intro usage
  apply FailsOnly.bind (failsOnly_amounts owner usage).reading
  intro a
  apply failsOnly_settle

theorem failsOnly_usageOfSections (metadata : Entries) :
  FailsOnly IsReading (usageOfSections owner metadata es)
  := by
  apply FailsOnly.bind (failsOnly_readList owner es _ _ failsOnly_containerUsage)
  intro containers
  apply failsOnly_settle

/-- A sample is read, or its document has an error. -/
theorem failsOnly_usage (d : Document) :
  FailsOnly IsError (usage d)
  := by
  cases d with
  | null => apply FailsOnly.ok
  | object es =>
    apply FailsOnly.bind (failsOnly_sectionOf _ es _)
    intro metadata
    apply FailsOnly.blameFaults
    apply FailsOnly.map
    apply failsOnly_usageOfSections
  | _ => apply failsOnly_fail

end Source

end PodTable
