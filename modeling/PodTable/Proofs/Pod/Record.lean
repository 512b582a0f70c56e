import PodTable.Pod.Record
import PodTable.Pod.Source
import PodTable.Proofs.Checked.Record
import PodTable.Proofs.Pod.Mistyped
import PodTable.Proofs.Settings.Record
import PodTable.Proofs.Time.Written

/-!
# Records of pods

The record of a pod, of a usage sample, or of any part of them is read as what it was written of. So what
is read of any document, whatever numbers, words and moments it was given in, is read again of its own
record, as are palettes and settings, and so are the pods and the usage samples that a cluster reports.
`readsBack_records` says so of every document.
-/

namespace PodTable

open Checked

namespace Resources

theorem undoes_check :
  Undoes check encode
  := by
  intro r
  have hcpu := undoes_integer.optional (by simp) r.cpu
  have hmemory := undoes_integer.optional (by simp) r.memory
  have hother := undoes_text.listOf r.other
  simp [check, encode, record, ofFields, defaulted, Document.lookup?, List.lookup_cons, hcpu, hmemory,
    hother]

end Resources

namespace Container

theorem undoes_check :
  Undoes check encode
  := by
  intro c
  have hresources := Resources.undoes_check
  simp [check, encode, record, ofFields, defaulted, required, Document.lookup?, List.lookup_cons,
    undoes_text c.name, hresources c.requests, hresources c.limits]

end Container

namespace ContainerState

theorem undoes_check :
  Undoes check encode
  := by
  intro s
  cases s with
  | waiting reason => rfl
  | running => rfl
  | terminated reason exitCode signal => rfl

end ContainerState

namespace ContainerStatus

theorem undoes_check :
  Undoes check encode
  := by
  intro s
  have hnull (s : ContainerState) : s.encode ≠ .null := by
    cases s <;> simp [ContainerState.encode]
  have hstate := ContainerState.undoes_check.optional hnull s.state
  simp [check, encode, record, ofFields, defaulted, required, Document.lookup?, List.lookup_cons,
    undoes_text s.name, undoes_flag s.ready, undoes_count s.restarts, hstate]

end ContainerStatus

namespace Pod

/-- The record of a pod is read as the pod if the zone of its timestamp has whole minutes. -/
theorem check_encode [EpochRule] {p : Pod} (h : ∀ t, p.created = some t → t.HasWholeMinutes) :
  check p.encode = .sound p
  := by
  have hcontainers := Container.undoes_check.listOf
  have hstatuses := ContainerStatus.undoes_check.listOf
  have hlabels := undoes_text.tableOf p.labels
  have hcreated : optional Timestamp.check
      ((p.created.map (fun t => Document.text t.text)).getD .null) = .sound p.created :=
    optional_eq_sound (fun t ht => Timestamp.check_text (h t ht)) (by simp)
  simp [check, encode, record, ofFields, defaulted, required, Document.lookup?, List.lookup_cons,
    undoes_text _, undoes_flag p.deletionRequested, hcontainers, hstatuses, hlabels, hcreated]

/-- A pod that is read has a timestamp that is read. -/
theorem exists_created_of_check [EpochRule] {d : Document} {p : Pod} {t : Timestamp}
    (h : check d = .sound p) (ht : p.created = some t) :
  ∃ d', Timestamp.check d' = .sound t
  := by
  obtain ⟨es, -, hfields⟩ := record_eq_sound_iff.mp h
  simp only [ofFields, seq_eq_sound_iff, map_eq_sound_iff] at hfields
  obtain ⟨_, created, ⟨_, _, ⟨_, _, ⟨_, _, ⟨_, _, ⟨_, _, ⟨_, _, ⟨_, _, ⟨_, _, ⟨_, _, ⟨_, _, ⟨_,
    _, ⟨_, _, ⟨_, _, rfl⟩, _, rfl⟩, _, rfl⟩, _, rfl⟩, _, rfl⟩, _, rfl⟩, _, rfl⟩, _, rfl⟩, _, rfl⟩,
    _, rfl⟩, _, rfl⟩, _, rfl⟩, _, rfl⟩, hcreated, rfl⟩ := hfields
  obtain rfl : created = some t := ht
  obtain ⟨d', -, hread⟩ | ⟨-, hnone⟩ := defaulted_eq_sound_iff.mp hcreated
  · exact ⟨d', of_optional_eq_sound hread⟩
  · cases hnone

theorem readsBack [EpochRule] :
  ReadsBack check encode
  := by
  intro d p hp
  apply check_encode
  intro t ht
  obtain ⟨d', hread⟩ := exists_created_of_check hp ht
  exact Timestamp.hasWholeMinutes_of_check hread

end Pod

namespace ContainerUsage

theorem undoes_check :
  Undoes check encode
  := by
  intro u
  simp [check, encode, record, ofFields, defaulted, required, Document.lookup?, List.lookup_cons,
    undoes_text u.name, undoes_integer _]

end ContainerUsage

namespace PodUsage

theorem undoes_check :
  Undoes check encode
  := by
  intro u
  have hcontainers := ContainerUsage.undoes_check.listOf u.containers
  simp [check, encode, record, ofFields, defaulted, Document.lookup?, List.lookup_cons, undoes_text _,
    hcontainers]

end PodUsage

/-! ### Records that are read back -/

/-- The record of what was read of a document is read as the same: a pod, a container, a status,
resources, a usage sample, the usage of a container, a palette, or settings. The same goes for every pod
and every usage sample that a cluster reports. -/
theorem readsBack_records [EpochRule] :
  ReadsBack Pod.check Pod.encode
  ∧ ReadsBack Container.check Container.encode
  ∧ ReadsBack ContainerStatus.check ContainerStatus.encode
  ∧ ReadsBack Resources.check Resources.encode
  ∧ ReadsBack PodUsage.check PodUsage.encode
  ∧ ReadsBack ContainerUsage.check ContainerUsage.encode
  ∧ ReadsBack Palette.check Palette.encode
  ∧ ReadsBack Settings.check Settings.encode
  ∧ (∀ d p, Source.pod d = .ok p → Pod.check p.encode = .sound p)
  ∧ ∀ d u, Source.usage d = .ok (some u) → PodUsage.check u.encode = .sound u
  := by
  have hpalette : ReadsBack Palette.check Palette.encode :=
    fun _ _ h => Palette.check_encode (Palette.isValid_of_check h)
  have hsettings : ReadsBack Settings.check Settings.encode :=
    fun d _ h => Settings.check_encode (Settings.isValid_iff.mp ⟨d, h⟩)
  have hpod (d : Document) (p : Pod) (h : Source.pod d = .ok p) :
      Pod.check p.encode = .sound p := by
    apply Pod.check_encode
    intro t ht
    have hcreated := Checked.under_eq_sound_iff.mp (Source.holdsFields_of_pod h).created
    rw [ht] at hcreated
    exact Timestamp.hasWholeMinutes_of_check (of_optional_eq_sound hcreated)
  exact ⟨Pod.readsBack, Container.undoes_check.readsBack,
    ContainerStatus.undoes_check.readsBack, Resources.undoes_check.readsBack,
    PodUsage.undoes_check.readsBack, ContainerUsage.undoes_check.readsBack, hpalette, hsettings,
    hpod, fun _ u _ => PodUsage.undoes_check u⟩

/-- A pod with words for truth values, texts for numbers, and an unusual layout of a moment. -/
def coercedPod : Document :=
  let status := Document.object
    [("name", .text "web"), ("ready", .text "On"), ("restart_count", .text " +1_2.0 "),
      ("state", .object [("kind", .text "terminated"), ("exit_code", .bool true)])]
  .object
    [("name", .text "web-1"), ("deletion_requested", .int 1), ("container_statuses", .list [status]),
      ("creation_timestamp", .text "2024-02-29_01:02:03,5+0530")]

theorem readsBack_records_of_coerced :
  ∃ p, Pod.check coercedPod = .sound p
    ∧ p.created.map Timestamp.text = some "2024-02-29T01:02:03.500000+05:30"
    ∧ p.statuses = [⟨"web", true, 12, some (.terminated "" 1 0)⟩]
    ∧ Pod.check p.encode = .sound p
  := by
  have hvalue : (Pod.check coercedPod).value?.map
      (fun p => (p.created.map Timestamp.text, p.statuses))
      = some (some "2024-02-29T01:02:03.500000+05:30",
        [⟨"web", true, 12, some (.terminated "" 1 0)⟩]) := by
    decide +kernel
  cases hpod : Pod.check coercedPod with
  | faulty faults => simp [hpod, value?] at hvalue
  | sound p =>
    simp only [hpod, value?, Option.map_some, Option.some.injEq, Prod.mk.injEq] at hvalue
    exact ⟨p, rfl, hvalue.1, hvalue.2, readsBack_records.1 coercedPod p hpod⟩

end PodTable
