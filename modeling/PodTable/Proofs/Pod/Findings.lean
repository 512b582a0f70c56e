import PodTable.Proofs.Checked.Faults
import PodTable.Proofs.Pod.Failure
import PodTable.Proofs.Pod.Sections
import PodTable.Proofs.Pod.Status

/-!
# Findings on reported pods

`Source.findings d` lists what is required of a reported pod `d`, in order: `none` where a
requirement is met, and otherwise the error that comes of it. Each requirement is about the document
alone. A pod is read when all requirements are met, and otherwise reading fails with the error of
the first one that is not, as `Source.pod_fails_with_first_finding` says.
-/

namespace PodTable

namespace Source

open Document

/-! ### Requirements -/

/-- The finding on the fields of a record, which must not have faults. -/
def recordFinding (owner : Owner) (record : RecordKind) (faults : List Fault) :
    Option SourceError :=
  if faults = [] then none else some (.illTyped owner record faults)

/-- The outcome follows findings on a pod: it is a value if there is none, and otherwise a failure
that becomes the first of them as an error of the pod. -/
def Follows {α : Type} (pod : Owner) (fs : List (Option SourceError)) (x : Except Failure α) :
    Prop :=
  match fs.findSome? id with
  | some e => ∃ f, x = .error f ∧ f.blameFaults pod = .unreadable e
  | none => ∃ a, x = .ok a

namespace Follows

variable {α β : Type} {pod : Owner} {fs gs : List (Option SourceError)} {x : Except Failure α}

variable (pod) in
theorem ok (a : α) :
  Follows pod [] (.ok a)
  := ⟨a, rfl⟩

/-- A second step follows its findings when the first one has a value. -/
theorem bind {k : α → Except Failure β} (h : Follows pod fs x)
    (hk : ∀ a, x = .ok a → Follows pod gs (k a)) :
  Follows pod (fs ++ gs) (x >>= k)
  := by
  unfold Follows at h ⊢
  rw [List.findSome?_append]
  cases hfs : fs.findSome? id with
  | some e =>
    rw [hfs] at h
    obtain ⟨f, rfl, he⟩ := h
    exact ⟨f, rfl, he⟩
  | none =>
    rw [hfs] at h
    obtain ⟨a, rfl⟩ := h
    exact hk a rfl

theorem map (k : α → β) (h : Follows pod fs x) :
  Follows pod fs (x.map k)
  := by
  unfold Follows at h ⊢
  split <;> rename_i hfs <;> rw [hfs] at h
  · obtain ⟨f, rfl, he⟩ := h
    exact ⟨f, rfl, he⟩
  · obtain ⟨a, rfl⟩ := h
    exact ⟨k a, rfl⟩

/-- Blaming the pod for the faults of its records changes none of the errors. -/
theorem blameFaults (h : Follows pod fs x) :
  Follows pod fs (x.mapError (Failure.blameFaults pod))
  := by
  unfold Follows at h ⊢
  split <;> rename_i hfs <;> rw [hfs] at h
  · obtain ⟨f, rfl, he⟩ := h
    refine ⟨_, rfl, ?_⟩
    rw [he]
    rfl
  · obtain ⟨a, rfl⟩ := h
    exact ⟨a, rfl⟩

/-- The faults of a record are one finding. -/
theorem settle {record : RecordKind} {c : Checked α} {faults : List Fault} (h : c.IsDefinite)
    (hfaults : c.faults = faults) :
  Follows pod [recordFinding pod record faults] (Source.settle record c)
  := by
  subst hfaults
  cases c with
  | sound a => exact ⟨a, rfl⟩
  | faulty faults =>
    have hne : faults ≠ [] := by
      rintro rfl
      obtain ⟨a, ha⟩ := h rfl
      cases ha
    rw [Checked.faults, recordFinding, if_neg hne]
    exact ⟨_, rfl, rfl⟩

end Follows

variable {α : Type} (pod owner : Owner) (es : Entries) (key : String)

variable {pod es}

-- The shape of each item counts before the content of any.
example :
  let refused := Document.object [("resources", .int 1)]
  Source.pod (.object [("spec", .object [("containers", .list [refused, .null])])])
    = fail (.notEntry (identified .pod []) "containers" 1 .null)
  := rfl

end Source

end PodTable
