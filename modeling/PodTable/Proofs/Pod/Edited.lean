import PodTable.Proofs.Document.Edited
import PodTable.Proofs.Pod.Alike

/-!
# Edited pods

Null values and missing values of a reported pod are interchangeable, and what stands under keys
that are not read does not count: documents that are made of one another by adding and removing such
entries are read to the same pod, or neither is read (`Source.pod_eq_ok_iff_of_edited`). An empty
object in the place of a scalar value with a default is the exception. It is taken for a missing
value, and it is no longer once it has an entry (`Source.pod_of_filled_phase`).
-/

namespace PodTable

namespace Outline

/-- What is read of a container. -/
def container : Outline :=
  .record
    [ ("name", .exact),
      ("resources", .record [("requests", .table false), ("limits", .table false)]) ]

/-- What is read of the status of a container. -/
def status : Outline :=
  .record
    [ ("name", .exact),
      ("ready", .defaulted),
      ("restartCount", .defaulted),
      ("state", .record
        [ ("terminated", .record
            [("reason", .defaulted), ("exitCode", .defaulted), ("signal", .defaulted)]),
          ("waiting", .record [("reason", .defaulted)]),
          ("running", .record []) ]) ]

/-- What is read of a reported pod. -/
def pod : Outline :=
  .record
    [ ("metadata", .record
        [ ("namespace", .defaulted),
          ("name", .nullable),
          ("deletionTimestamp", .nullable),
          ("labels", .table true),
          ("creationTimestamp", .nullable) ]),
      ("spec", .record
        [ ("containers", .list container),
          ("initContainers", .list container),
          ("nodeName", .defaulted) ]),
      ("status", .record
        [ ("phase", .defaulted),
          ("reason", .defaulted),
          ("containerStatuses", .list status),
          ("initContainerStatuses", .list status),
          ("podIP", .defaulted),
          ("qosClass", .defaulted) ]) ]

end Outline

namespace Source

open Document

variable {d e : Document}

/-! ### Containers and statuses -/

theorem tablesAlike_of_edit (h : Edit false (.table false) d e) :
  TablesAlike d e
  where
    shape := h.sameShape
    keys := .of_eq (keys_eq_of_forall₂ (h.table_entries.imp (fun _ _ => And.left)))
    values key := h.rel_lookup? key rfl

theorem containersAlike_of_edit (h : Edit false .container d e) :
  ContainersAlike d.entries e.entries
  := by
  have hresources := h.valueAt "resources" rfl
  exact
    { name := h.rel_lookup? "name" rfl
      resources := hresources.sameShape
      requests := tablesAlike_of_edit (hresources.valueAt "requests" rfl)
      limits := tablesAlike_of_edit (hresources.valueAt "limits" rfl) }

theorem statusesAlike_of_edit (h : Edit false .status d e) :
  StatusesAlike d.entries e.entries
  := by
  have hstate := h.valueAt "state" rfl
  have hterminated := hstate.valueAt "terminated" rfl
  have hwaiting := hstate.valueAt "waiting" rfl
  have hrunning := hstate.valueAt "running" rfl
  exact
    { name := h.rel_lookup? "name" rfl
      ready := h.sameField "ready" rfl
      restarts := h.sameField "restartCount" rfl
      state := hstate.sameShape
      details := by
        simp only [List.forall_mem_cons]
        exact ⟨hterminated.sameShape, hwaiting.sameShape, hrunning.sameShape, by simp⟩
      terminated := by
        simp only [List.forall_mem_cons]
        exact ⟨hterminated.sameField _ rfl, hterminated.sameField _ rfl, hterminated.sameField _ rfl,
          by simp⟩
      waiting := hwaiting.sameField "reason" rfl }

/-- Edited lists are alike if edited items are read alike. -/
theorem listsAlike_of_edit {α : Type} {read : Owner → Entries → Except Failure α} {item : Outline}
    (hread : ∀ owner d e, Edit false item d e →
      Agree Eq (read owner d.entries) (read owner e.entries))
    (h : Edit false (.list item) d e) :
  ListsAlike read Eq d e
  where
    shape := h.sameShape
    items owner := Agree.mapM
      (h.items.imp (fun d e hde => agree_readItem hde.sameShape (hread owner d e hde)))

theorem agree_container_of_edit (owner : Owner) (d e : Document) (h : Edit false .container d e) :
  Agree Eq (container owner d.entries) (container owner e.entries)
  := agree_container (containersAlike_of_edit h)

theorem agree_containerStatus_of_edit (owner : Owner) (d e : Document)
    (h : Edit false .status d e) :
  Agree Eq (containerStatus owner d.entries) (containerStatus owner e.entries)
  := agree_containerStatus (statusesAlike_of_edit h)

/-! ### Pods -/

/-- Equality of the lists and of the labels of pods. -/
def equalLists : ListRelations where
  containers := Eq
  initContainers := Eq
  statuses := Eq
  initStatuses := Eq
  labels := Eq

theorem podsAlikeUpTo_of_edit (h : Edit false .pod d e) :
  PodsAlikeUpTo equalLists d e
  := by
  have hmetadata := h.valueAt "metadata" rfl
  have hspec := h.valueAt "spec" rfl
  have hstatus := h.valueAt "status" rfl
  exact
    { shape := h.sameShape
      sections := by
        simp only [List.forall_mem_cons]
        exact ⟨hmetadata.sameShape, hspec.sameShape, hstatus.sameShape, by simp⟩
      containers := listsAlike_of_edit agree_container_of_edit (hspec.valueAt "containers" rfl)
      initContainers :=
        listsAlike_of_edit agree_container_of_edit (hspec.valueAt "initContainers" rfl)
      statuses := listsAlike_of_edit agree_containerStatus_of_edit
        (hstatus.valueAt "containerStatuses" rfl)
      initStatuses := listsAlike_of_edit agree_containerStatus_of_edit
        (hstatus.valueAt "initContainerStatuses" rfl)
      name := (hmetadata.valueAt "name" rfl).sameShape
      deletion := (hmetadata.valueAt "deletionTimestamp" rfl).sameShape
      created := (hmetadata.valueAt "creationTimestamp" rfl).sameShape
      namespaceName := hmetadata.sameField "namespace" rfl
      node := hspec.sameField "nodeName" rfl
      statusFields := by
        simp only [List.forall_mem_cons]
        exact ⟨hstatus.sameField _ rfl, hstatus.sameField _ rfl, hstatus.sameField _ rfl,
          hstatus.sameField _ rfl, by simp⟩
      labels := agree_tableOr (R := Eq) rfl (hmetadata.sameField "labels" rfl)
        (Checked.agree_values_of_forall₂ Checked.refusesParts_text
          (hmetadata.valueAt_entries "labels" rfl)) _ }

/-- A pod is read the same before and after one edit. -/
theorem agree_pod_of_edit [EpochRule] (h : Edit false .pod d e) :
  Agree Eq (pod d) (pod e)
  := by
  apply (agree_pod_of_alike (podsAlikeUpTo_of_edit h)).mono
  rintro p _ ⟨rfl, rfl, rfl, rfl, rfl⟩
  rfl

/-- Missing values are interchangeable with null values, and with vacuous ones where there is a
default, and what is not read does not count: documents that are made of one another by adding and
removing such entries are read to the same pod, or neither is read. Only the first entry of an empty
object that itself counts as missing may not be added. -/
theorem pod_eq_ok_iff_of_edited [EpochRule] (h : Edited false .pod d e) :
  ∀ p, pod d = .ok p ↔ pod e = .ok p
  := by
  induction h with
  | rel d e h => exact (agree_pod_of_edit h).eq_ok_iff
  | refl d => exact fun _ => Iff.rfl
  | symm d e _ ih => exact fun p => (ih p).symm
  | trans d e f _ _ ih ih' => exact fun p => (ih p).trans (ih' p)

/-- A pod with the given entries and the status of one container, with entries for its state. -/
def podWithState (es states : Entries) : Document :=
  .object
    (es ++
      [ ("metadata", .object [("name", .text "web-0")]),
        ("status", .object
          [("containerStatuses", .list [.object [("state", .object states), ("name", .text "a")]])]) ])

theorem pod_of_null_beside_state :
  ∃ p, pod (podWithState [("spec", .null)] [("running", .object [])]) = .ok p
    ∧ pod (podWithState [("kind", .text "Pod")] [("waiting", .null), ("running", .object [])]) = .ok p
    ∧ p.statuses.map (·.state) = [some .running]
  := by
  have hspec : Edit false .pod (podWithState [] [("running", .object [])])
      (podWithState [("spec", .null)] [("running", .object [])]) :=
    @Edit.added _ _ [] _ "spec" _ rfl (.null rfl rfl) (.inr (.inl rfl))
  have hkind : Edit false .pod (podWithState [] [("running", .object [])])
      (podWithState [("kind", .text "Pod")] [("running", .object [])]) :=
    @Edit.added _ _ [] _ "kind" _ rfl (.unread rfl) (.inr (.inl rfl))
  have hstate : Edit false .status
      (.object [("state", .object [("running", .object [])]), ("name", .text "a")])
      (.object
        [("state", .object [("waiting", .null), ("running", .object [])]), ("name", .text "a")]) :=
    @Edit.inEntry _ _ [] _ _ _ _
      (@Edit.added _ _ [] _ "waiting" _ rfl (.null rfl rfl) (.inr (.inl rfl)))
  have hwaiting : Edit false .pod (podWithState [("kind", .text "Pod")] [("running", .object [])])
      (podWithState [("kind", .text "Pod")] [("waiting", .null), ("running", .object [])]) :=
    @Edit.inEntry _ _ [_, _] [] _ _ _
      (@Edit.inEntry _ _ [] [] _ _ _ (@Edit.inItem _ _ [] [] _ _ hstate))
  have h : Edited false .pod (podWithState [("spec", .null)] [("running", .object [])])
      (podWithState [("kind", .text "Pod")] [("waiting", .null), ("running", .object [])]) :=
    .trans _ _ _ (.symm _ _ (.rel _ _ hspec)) (.trans _ _ _ (.rel _ _ hkind) (.rel _ _ hwaiting))
  exact ⟨_, rfl, (pod_eq_ok_iff_of_edited h _).mp rfl, rfl⟩

/-- A pod with the given entries in its parts. -/
def podOfParts (metadata spec status : Entries) : Document :=
  .object [("metadata", .object metadata), ("spec", .object spec), ("status", .object status)]

/-! An edit of one part of a pod is an edit of the pod. -/

section Parts

variable {inEmpty : Bool} {metadata spec status es : Entries}

theorem edit_metadata
    (h : Edit inEmpty (Outline.pod.under "metadata") (.object metadata) (.object es)) :
  Edit inEmpty .pod (podOfParts metadata spec status) (podOfParts es spec status)
  := @Edit.inEntry _ _ [] _ _ _ _ h

theorem edit_spec (h : Edit inEmpty (Outline.pod.under "spec") (.object spec) (.object es)) :
  Edit inEmpty .pod (podOfParts metadata spec status) (podOfParts metadata es status)
  := @Edit.inEntry _ _ [_] _ _ _ _ h

theorem edit_status (h : Edit inEmpty (Outline.pod.under "status") (.object status) (.object es)) :
  Edit inEmpty .pod (podOfParts metadata spec status) (podOfParts metadata spec es)
  := @Edit.inEntry _ _ [_, _] _ _ _ _ h

end Parts

/-- An empty object in the place of the phase is taken for a missing phase. With a null entry in it
the pod is refused. -/
theorem pod_of_filled_phase :
  let podOfPhase (phase : Document) := podOfParts [("name", .text "web-0")] [] [("phase", phase)]
  Edited true .pod (podOfPhase (.object [])) (podOfPhase (.object [("note", .null)]))
  ∧ (∃ p, pod (podOfPhase (.object [])) = .ok p ∧ p.phase = "")
  ∧ ∀ p, pod (podOfPhase (.object [("note", .null)])) ≠ .ok p
  := by
  refine ⟨.rel _ _ ?_, ⟨_, rfl, rfl⟩, ?_⟩
  · exact edit_status (@Edit.inEntry _ _ [] [] _ _ _
      (@Edit.added _ _ [] [] _ _ rfl (.unread rfl) (.inl rfl)))
  · rintro p ⟨⟩

end Source

end PodTable
