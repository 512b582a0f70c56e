import PodTable.Proofs.Pod.Edited
import PodTable.Proofs.Pod.Failure

/-!
# Values of a wrong type

Nine fields of a reported pod have to hold a text, or an object of labels. All but one of them have a
default, which stands for every vacuous value, of whatever type it is. So a value of a wrong type is
refused wherever it is found exactly when it is not vacuous or the field has no default, as
`TypedField.refuses_mistyped_iff` says.
-/

namespace PodTable

/-- A field of a reported pod that has to hold a text, or an object of labels. -/
inductive TypedField where
  | namespaceName
  | name
  | phase
  | reason
  | address
  | serviceClass
  | node
  | labels
  | stateReason
deriving DecidableEq

namespace Checked

variable {α : Type}

theorem text_eq_sound_iff {d : Document} {s : String} :
  text d = sound s ↔ d = .text s
  := by
  cases d <;> simp [text, fault]

/-- A table is read from an object. -/
theorem exists_of_tableOf {read : Document → Checked α} {d : Document} {as : List (String × α)}
    (h : tableOf read d = sound as) :
  ∃ es, d = .object es
  := by
  cases d with
  | object es => exact ⟨es, rfl⟩
  | _ => cases h

end Checked

namespace TypedField

open Document Source

/-- Whether a value is null or of the type that a field has to hold. -/
def accepts : TypedField → Document → Bool
  | _, .null => true
  | labels, .object _ => true
  | labels, _ => false
  | _, .text _ => true
  | _, _ => false

/-- The reason in the state of a container, under the first of two keys that has a value other than
null. A container that is running has no reason. -/
def reasonOf? (es : Entries) : Option Document :=
  let states := (valueAt es "state").entries
  (["terminated", "waiting"].find? (has states)).map
    (fun key => valueAt (valueAt states key).entries "reason")

/-- The values of a field in a reported pod, of which there may be several for the statuses of its
containers. -/
def values (d : Document) : TypedField → List Document
  | namespaceName => [valueAt (sectionAt d "metadata") "namespace"]
  | name => [valueAt (sectionAt d "metadata") "name"]
  | phase => [valueAt (sectionAt d "status") "phase"]
  | reason => [valueAt (sectionAt d "status") "reason"]
  | address => [valueAt (sectionAt d "status") "podIP"]
  | serviceClass => [valueAt (sectionAt d "status") "qosClass"]
  | node => [valueAt (sectionAt d "spec") "nodeName"]
  | labels => [valueAt (sectionAt d "metadata") "labels"]
  | stateReason =>
    ["containerStatuses", "initContainerStatuses"].flatMap (fun key =>
      (valueAt (sectionAt d "status") key).items.filterMap (fun item => reasonOf? item.entries))

end TypedField

namespace Source

open Document Outcome

/-! ### Fields of pods that are read -/

/-- The fields of a pod are what is read of the values under their keys. -/
structure HoldsFields [EpochRule] (metadata spec status : Entries) (p : Pod) : Prop where
  namespaceName : fieldOr metadata "namespace" (.text "") "namespace" Checked.text
    = .sound p.namespaceName
  name : fieldOrNull metadata "name" "name" Checked.text = .sound p.name
  phase : fieldOr status "phase" (.text "") "phase" Checked.text = .sound p.phase
  reason : fieldOr status "reason" (.text "") "reason" Checked.text = .sound p.reason
  address : fieldOr status "podIP" (.text "") "pod_ip" Checked.text = .sound p.address
  node : fieldOr spec "nodeName" (.text "") "node_name" Checked.text = .sound p.node
  serviceClass : fieldOr status "qosClass" (.text "") "qos_class" Checked.text
    = .sound p.serviceClass
  labels : fieldOr metadata "labels" (.object []) "labels" (Checked.tableOf Checked.text)
    = .sound p.labels
  created : fieldOrNull metadata "creationTimestamp" "creation_timestamp"
    (Checked.optional Timestamp.check) = .sound p.created

theorem holdsFields_of_podOfSections [EpochRule] {owner : Owner} {metadata spec status : Entries}
    {p : Pod} (h : podOfSections owner metadata spec status = .ok p) :
  HoldsFields metadata spec status p
  := by
  obtain ⟨containers, _, h⟩ := bind_eq_ok_iff.mp h
  obtain ⟨initContainers, _, h⟩ := bind_eq_ok_iff.mp h
  obtain ⟨statuses, _, h⟩ := bind_eq_ok_iff.mp h
  obtain ⟨initStatuses, _, h⟩ := bind_eq_ok_iff.mp h
  simp only [settle_eq_ok_iff, Checked.seq_eq_sound_iff, Checked.map_eq_sound_iff] at h
  obtain ⟨_, _, ⟨_, _, ⟨_, _, ⟨_, _, ⟨_, _, ⟨_, _, ⟨_, _, ⟨_, _, ⟨_, hns, rfl⟩, hname, rfl⟩, hphase,
    rfl⟩, hreason, rfl⟩, haddress, rfl⟩, hnode, rfl⟩, hclass, rfl⟩, hlabels, rfl⟩, hcreated, rfl⟩ := h
  exact ⟨hns, hname, hphase, hreason, haddress, hnode, hclass, hlabels, hcreated⟩

theorem holdsFields_of_pod [EpochRule] {d : Document} {p : Pod} (h : pod d = .ok p) :
  HoldsFields (sectionAt d "metadata") (sectionAt d "spec") (sectionAt d "status") p
  := by
  cases d with
  | object es =>
    obtain ⟨metadata, hmetadata, h⟩ := bind_eq_ok_iff.mp h
    obtain ⟨spec, hspec, h⟩ := bind_eq_ok_iff.mp h
    obtain ⟨status, hstatus, h⟩ := bind_eq_ok_iff.mp h
    obtain rfl := sectionOf_eq_ok hmetadata
    obtain rfl := sectionOf_eq_ok hspec
    obtain rfl := sectionOf_eq_ok hstatus
    exact holdsFields_of_podOfSections (mapError_eq_ok_iff.mp h)
  | _ => cases fail_ne_ok h

/-- A field with a default holds a text or a vacuous value. -/
theorem text_or_vacuous_of_fieldOr {es : Entries} {key field s : String}
    (h : fieldOr es key (.text "") field Checked.text = .sound s) :
  (valueAt es key).isVacuous = true ∨ valueAt es key = .text s
  := by
  rw [fieldOr, Checked.under_eq_sound_iff, Checked.text_eq_sound_iff, lookupOr_eq] at h
  split at h
  · left
    assumption
  · exact .inr h

theorem object_or_vacuous_of_fieldOr {es : Entries} {key field : String} {ls : List (String × String)}
    (h : fieldOr es key (.object []) field (Checked.tableOf Checked.text) = .sound ls) :
  (valueAt es key).isVacuous = true ∨ ∃ fs, valueAt es key = .object fs
  := by
  rw [fieldOr, Checked.under_eq_sound_iff, lookupOr_eq] at h
  split at h
  · left
    assumption
  · exact .inr (Checked.exists_of_tableOf h)

/-- The reason in a state that is read is a text or a vacuous value. -/
theorem text_or_vacuous_of_containerStatus {owner : Owner} {es : Entries} {s : ContainerStatus}
    (h : containerStatus owner es = .ok s) :
  ∀ v ∈ TypedField.reasonOf? es, v.isVacuous = true ∨ ∃ reason, v = .text reason
  := by
  intro v hv
  obtain ⟨state, hstate, _⟩ := bind_eq_ok_iff.mp h
  obtain ⟨states, hstates, hstate⟩ := bind_eq_ok_iff.mp hstate
  obtain rfl := sectionOf_eq_ok hstates
  obtain ⟨key, hkey, rfl⟩ := Option.map_eq_some_iff.mp hv
  rw [List.find?_cons] at hkey
  split at hstate
  · rename_i hterminated
    obtain rfl : "terminated" = key := by simpa [hterminated] using hkey
    obtain ⟨details, hdetails, hstate⟩ := bind_eq_ok_iff.mp hstate
    obtain rfl := sectionOf_eq_ok hdetails
    obtain ⟨_, hstate, _⟩ := map_eq_ok_iff.mp hstate
    simp only [terminatedState, settle_eq_ok_iff, Checked.seq_eq_sound_iff,
      Checked.map_eq_sound_iff] at hstate
    obtain ⟨_, _, ⟨_, _, ⟨reason, hreason, rfl⟩, _, rfl⟩, _, rfl⟩ := hstate
    exact (text_or_vacuous_of_fieldOr hreason).imp_right (fun h => ⟨reason, h⟩)
  split at hstate
  · rename_i hterminated hwaiting
    obtain rfl : "waiting" = key := by simpa [hterminated, hwaiting] using hkey
    obtain ⟨details, hdetails, hstate⟩ := bind_eq_ok_iff.mp hstate
    obtain rfl := sectionOf_eq_ok hdetails
    obtain ⟨_, hstate, _⟩ := map_eq_ok_iff.mp hstate
    simp only [waitingState, settle_eq_ok_iff, Checked.map_eq_sound_iff] at hstate
    obtain ⟨reason, hreason, rfl⟩ := hstate
    exact (text_or_vacuous_of_fieldOr hreason).imp_right (fun h => ⟨reason, h⟩)
  · rename_i hterminated hwaiting
    simp [hterminated, hwaiting] at hkey

end Source

namespace TypedField

open Document Source

/-- A pod with the status of one container, that is waiting for a given reason. -/
def waitingPod (reason : Entries) : Document :=
  podOfParts [("name", .text "web-0")] []
    [("containerStatuses", .list [.object [("state", .object [("waiting", .object reason)])]])]

/-- A pod with a given value in a field. -/
def podWithField (v : Document) : TypedField → Document
  | namespaceName => podOfParts [("namespace", v), ("name", .text "web-0")] [] []
  | name => podOfParts [("name", v)] [] []
  | phase => podOfParts [("name", .text "web-0")] [] [("phase", v)]
  | reason => podOfParts [("name", .text "web-0")] [] [("reason", v)]
  | address => podOfParts [("name", .text "web-0")] [] [("podIP", v)]
  | serviceClass => podOfParts [("name", .text "web-0")] [] [("qosClass", v)]
  | node => podOfParts [("name", .text "web-0")] [("nodeName", v)] []
  | labels => podOfParts [("labels", v), ("name", .text "web-0")] [] []
  | stateReason => waitingPod [("reason", v)]

theorem mem_values_podWithField (v : Document) (f : TypedField) :
  v ∈ f.values (podWithField v f)
  := by
  cases f <;> exact List.mem_singleton.mpr rfl

/-- A vacuous value in a field with a default is taken for a missing one. -/
theorem exists_pod_of_isVacuous [EpochRule] {v : Document} (hv : v.isVacuous = true)
    {f : TypedField} (hf : f ≠ name) :
  ∃ p, Source.pod (podWithField v f) = .ok p
  := by
  have hread {d : Document} (h : Edit false .pod d (podWithField v f))
      (hd : ∃ p, Source.pod d = .ok p) : ∃ p, Source.pod (podWithField v f) = .ok p := by
    obtain ⟨p, hp⟩ := hd
    exact ⟨p, ((agree_pod_of_edit h).eq_ok_iff p).mp hp⟩
  have hadded {o : Outline} {key : String} (es : Entries) (hkey : lookup? es key = none)
      (ho : (o.under key).hasDefault = true) (hempty : o.hasDefault = false) :
      Edit false o (.object es) (.object ((key, v) :: es)) :=
    @Edit.added _ _ [] es key v hkey (.vacuous ho hv) (.inr (.inl hempty))
  -- The pod without the field is read, and the field is an entry added to it.
  cases f with
  | name => contradiction
  | namespaceName => exact hread (edit_metadata (hadded _ rfl rfl rfl)) ⟨_, rfl⟩
  | labels => exact hread (edit_metadata (hadded _ rfl rfl rfl)) ⟨_, rfl⟩
  | node => exact hread (edit_spec (hadded _ rfl rfl rfl)) ⟨_, rfl⟩
  | stateReason =>
    have hreason : Edit false Outline.status (.object [("state", .object [("waiting", .object [])])])
        (.object [("state", .object [("waiting", .object [("reason", v)])])]) :=
      @Edit.inEntry _ _ [] [] _ _ _ (@Edit.inEntry _ _ [] [] _ _ _ (hadded [] rfl rfl rfl))
    exact hread (edit_status (@Edit.inEntry _ _ [] [] _ _ _ (@Edit.inItem _ _ [] [] _ _ hreason)))
      ⟨_, rfl⟩
  | _ => exact hread (edit_status (hadded _ rfl rfl rfl)) ⟨_, rfl⟩

theorem accepts_text {f : TypedField} (hf : f ≠ labels) (s : String) :
  f.accepts (.text s) = true
  := by
  cases f <;> first | rfl | contradiction

/-- A value in a field of a pod that is read has the type of the field, or it is taken for a missing
one. -/
theorem accepts_or_isVacuous_of_pod [EpochRule] {d : Document} {p : Pod} (h : Source.pod d = .ok p)
    {f : TypedField} {v : Document} (hv : v ∈ f.values d) :
  f.accepts v = true ∨ (v.isVacuous = true ∧ f ≠ name)
  := by
  have hfields := holdsFields_of_pod h
  have hlists := holdsLists_of_pod h
  have htext {es : Entries} {key field s : String} (hf : f ≠ labels) (hname : f ≠ name)
      (hread : fieldOr es key (.text "") field Checked.text = .sound s) (hv : v = valueAt es key) :
      f.accepts v = true ∨ (v.isVacuous = true ∧ f ≠ name) := by
    rw [hv]
    obtain hvacuous | hkey := text_or_vacuous_of_fieldOr hread
    · exact .inr ⟨hvacuous, hname⟩
    · rw [hkey]
      exact .inl (accepts_text hf s)
  cases f with
  | namespaceName =>
    exact htext (by decide) (by decide) hfields.namespaceName (List.mem_singleton.mp hv)
  | phase => exact htext (by decide) (by decide) hfields.phase (List.mem_singleton.mp hv)
  | reason => exact htext (by decide) (by decide) hfields.reason (List.mem_singleton.mp hv)
  | address => exact htext (by decide) (by decide) hfields.address (List.mem_singleton.mp hv)
  | serviceClass =>
    exact htext (by decide) (by decide) hfields.serviceClass (List.mem_singleton.mp hv)
  | node => exact htext (by decide) (by decide) hfields.node (List.mem_singleton.mp hv)
  | name =>
    obtain rfl := List.mem_singleton.mp hv
    have hname := hfields.name
    rw [fieldOrNull, Checked.under_eq_sound_iff, Checked.text_eq_sound_iff] at hname
    rw [valueAt, hname]
    exact .inl rfl
  | labels =>
    obtain rfl := List.mem_singleton.mp hv
    obtain hvacuous | ⟨es, hes⟩ := object_or_vacuous_of_fieldOr hfields.labels
    · exact .inr ⟨hvacuous, by decide⟩
    · rw [hes]
      exact .inl rfl
  | stateReason =>
    have hstatuses : ∀ key ∈ ["containerStatuses", "initContainerStatuses"],
        ∀ item ∈ (valueAt (sectionAt d "status") key).items,
          ∀ v ∈ reasonOf? item.entries, v.isVacuous = true ∨ ∃ reason, v = .text reason := by
      simp only [List.forall_mem_cons]
      exact ⟨hlists.statuses.forall_mem (fun _ _ _ => text_or_vacuous_of_containerStatus),
        hlists.initStatuses.forall_mem (fun _ _ _ => text_or_vacuous_of_containerStatus), by simp⟩
    obtain ⟨key, hkey, hv⟩ := List.mem_flatMap.mp hv
    obtain ⟨item, hitem, hv⟩ := List.mem_filterMap.mp hv
    obtain hvacuous | ⟨reason, rfl⟩ := hstatuses key hkey item hitem v hv
    · exact .inr ⟨hvacuous, by decide⟩
    · exact .inl rfl

/-- A value of a wrong type is refused wherever it is found in a field exactly when it is not
vacuous, or the field is the name, which has no default. -/
theorem refuses_mistyped_iff [EpochRule] {f : TypedField} {v : Document} (h : f.accepts v = false) :
  (∀ d, v ∈ f.values d → ∃ e, Source.pod d = .error (.unreadable e))
    ↔ v.isVacuous = false ∨ f = name
  := by
  constructor
  · intro hrefused
    by_contra hnot
    push Not at hnot
    obtain ⟨p, hp⟩ := exists_pod_of_isVacuous (Bool.eq_true_of_not_eq_false hnot.1) hnot.2
    obtain ⟨e, he⟩ := hrefused _ (mem_values_podWithField v f)
    cases hp.symm.trans he
  · intro hv d hd
    cases hpod : Source.pod d with
    | error failure =>
      obtain ⟨e, rfl⟩ := failsOnly_pod d failure hpod
      exact ⟨e, rfl⟩
    | ok p =>
      obtain haccepts | ⟨hvacuous, hname⟩ := accepts_or_isVacuous_of_pod hpod hd
      · cases h.symm.trans haccepts
      · obtain hv | rfl := hv
        · cases hv.symm.trans hvacuous
        · contradiction

theorem refuses_mistyped_phase :
  phase.accepts (.int 7) = false
  ∧ ∃ e, Source.pod (podWithField (.int 7) phase) = .error (.unreadable e)
  := ⟨rfl, (refuses_mistyped_iff rfl).mpr (.inl rfl) _ (mem_values_podWithField _ _)⟩

/-- Zero is no text, yet it is taken for a missing phase. -/
theorem pod_of_zero_phase :
  phase.accepts (.int 0) = false
  ∧ .int 0 ∈ phase.values (podWithField (.int 0) phase)
  ∧ ∃ p, Source.pod (podWithField (.int 0) phase) = .ok p ∧ p.phase = ""
  := ⟨rfl, mem_values_podWithField _ _, _, rfl, rfl⟩

end TypedField

end PodTable
