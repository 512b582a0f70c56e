import Mathlib.Data.List.Forall2
import PodTable.Pod.Source
import PodTable.Proofs.Outcome

/-!
# Sections and lists of reported documents

The value of an object under a key is null where the key is missing. What is read from a section or
from a list does not depend on its owner: it is the entries of the value under its key, or what the
items of that value are read to, one by one.
-/

namespace PodTable

namespace Document

/-- The entries of an object, and none of anything else. -/
def entries : Document → Entries
  | object es => es
  | _ => []

/-- The items of a list, and none of anything else. -/
def items : Document → List Document
  | list ds => ds
  | _ => []

/-- The value of an object under a key, null if there is none. -/
def valueAt (es : Entries) (key : String) : Document := (lookup? es key).getD .null

end Document

namespace Source

open Document Outcome

variable {α : Type} {owner : Owner} {es fs : Entries} {key : String}

theorem fail_ne_ok {e : SourceError} {a : α} :
  fail e ≠ .ok a
  := by
  rintro ⟨⟩

/-- A section that is read is the value under its key. -/
theorem sectionOf_eq_ok (h : sectionOf owner es key = .ok fs) :
  fs = (valueAt es key).entries
  := by
  unfold sectionOf at h
  rw [valueAt]
  split at h
  case h_4 => cases fail_ne_ok h
  all_goals
    rename_i hkey
    rw [hkey]
    exact (Except.ok.inj h).symm

theorem objects_eq_ok {n : Nat} {ds : List Document} {ess : List Entries}
    (h : objects owner key n ds = .ok ess) :
  ess = ds.map entries
  := by
  induction ds generalizing n ess with
  | nil => exact (Except.ok.inj h).symm
  | cons d ds ih =>
    cases d with
    | object es =>
      obtain ⟨ess, hds, rfl⟩ := map_eq_ok_iff.mp h
      rw [ih hds]
      rfl
    | _ => cases fail_ne_ok h

/-- The objects of a list that is read are its items. -/
theorem entriesOf_eq_ok {ess : List Entries} (h : entriesOf owner es key = .ok ess) :
  ess = (valueAt es key).items.map entries
  := by
  unfold entriesOf at h
  rw [valueAt]
  split at h
  · rename_i hkey
    rw [hkey]
    exact (Except.ok.inj h).symm
  · rename_i hkey
    rw [hkey]
    exact (Except.ok.inj h).symm
  · rename_i hkey
    rw [hkey]
    exact objects_eq_ok h
  · cases fail_ne_ok h

/-- Objects are read one by one. -/
theorem readEach_eq_ok {read : Nat → Entries → Except Failure α} {n : Nat} {ess : List Entries}
    {as : List α} (h : readEach read n ess = .ok as) :
  List.Forall₂ (fun es a => ∃ i, read i es = .ok a) ess as
  := by
  induction ess generalizing n as with
  | nil =>
    obtain rfl := Except.ok.inj h
    apply List.Forall₂.nil
  | cons es ess ih =>
    obtain ⟨a, ha, h⟩ := bind_eq_ok_iff.mp h
    obtain ⟨as, has, h⟩ := bind_eq_ok_iff.mp h
    obtain rfl := Except.ok.inj h
    exact .cons ⟨n, ha⟩ (ih has)

/-- The items of a list are read to values, one by one and in order. -/
def ReadTo (read : Owner → Entries → Except Failure α) (d : Document) (as : List α) : Prop :=
  List.Forall₂ (fun item a => ∃ owner, read owner item.entries = .ok a) d.items as

theorem readList_eq_ok {part : Nat → Part} {read : Owner → Entries → Except Failure α}
    {as : List α} (h : readList owner es key part read = .ok as) :
  ReadTo read (valueAt es key) as
  := by
  obtain ⟨ess, hess, h⟩ := bind_eq_ok_iff.mp h
  obtain rfl := entriesOf_eq_ok hess
  apply (List.forall₂_map_left_iff.mp (readEach_eq_ok h)).imp
  rintro d a ⟨i, ha⟩
  exact ⟨_, ha⟩

/-- What follows from a value that is read follows for each of them. -/
theorem ReadTo.map_eq_map {β : Type} {read : Owner → Entries → Except Failure α} {d : Document}
    {as : List α} (h : ReadTo read d as) {f : α → β} {g : Entries → β}
    (hfg : ∀ owner es a, read owner es = .ok a → f a = g es) :
  as.map f = d.items.map (fun item => g item.entries)
  := by
  unfold ReadTo at h
  generalize d.items = items at h
  induction h with
  | nil => rfl
  | cons hread _ ih =>
    obtain ⟨owner, ha⟩ := hread
    rw [List.map_cons, List.map_cons, hfg _ _ _ ha, ih]

theorem ReadTo.forall_mem {read : Owner → Entries → Except Failure α} {d : Document} {as : List α}
    (h : ReadTo read d as) {P : Entries → Prop}
    (hP : ∀ owner es a, read owner es = .ok a → P es) :
  ∀ item ∈ d.items, P item.entries
  := by
  unfold ReadTo at h
  generalize d.items = items at h
  induction h with
  | nil => simp
  | cons hread _ ih =>
    obtain ⟨owner, ha⟩ := hread
    exact List.forall_mem_cons.mpr ⟨hP _ _ _ ha, ih⟩

theorem ReadTo.exists_of_mem {read : Owner → Entries → Except Failure α} {d : Document}
    {as : List α} (h : ReadTo read d as) {a : α} (ha : a ∈ as) :
  ∃ owner es, read owner es = .ok a
  := by
  unfold ReadTo at h
  generalize d.items = items at h
  induction h with
  | nil => cases ha
  | cons hread _ ih =>
    obtain rfl | ha := List.mem_cons.mp ha
    · obtain ⟨owner, ha⟩ := hread
      exact ⟨owner, _, ha⟩
    · exact ih ha

theorem settle_eq_ok_iff {record : RecordKind} {c : Checked α} {a : α} :
  settle record c = .ok a ↔ c = .sound a
  := by
  cases c <;> simp [settle]

/-- The lists of a pod hold what the items of the reported lists are read to. -/
structure HoldsLists (spec status : Entries) (p : Pod) : Prop where
  containers : ReadTo container (valueAt spec "containers") p.containers
  initContainers : ReadTo container (valueAt spec "initContainers") p.initContainers
  statuses : ReadTo containerStatus (valueAt status "containerStatuses") p.statuses
  initStatuses : ReadTo containerStatus (valueAt status "initContainerStatuses") p.initStatuses

theorem holdsLists_of_podOfSections [EpochRule] {metadata spec status : Entries} {p : Pod}
    (h : podOfSections owner metadata spec status = .ok p) :
  HoldsLists spec status p
  := by
  obtain ⟨containers, hcontainers, h⟩ := bind_eq_ok_iff.mp h
  obtain ⟨initContainers, hinit, h⟩ := bind_eq_ok_iff.mp h
  obtain ⟨statuses, hstatuses, h⟩ := bind_eq_ok_iff.mp h
  obtain ⟨initStatuses, hinitStatuses, h⟩ := bind_eq_ok_iff.mp h
  simp only [settle_eq_ok_iff, Checked.seq_eq_sound_iff, Checked.map_eq_sound_iff] at h
  obtain ⟨_, _, ⟨_, _, ⟨_, _, ⟨_, _, ⟨_, _, ⟨_, _, ⟨_, _, ⟨_, _, ⟨_, _, rfl⟩, _, rfl⟩, _, rfl⟩, _,
    rfl⟩, _, rfl⟩, _, rfl⟩, _, rfl⟩, _, rfl⟩, _, rfl⟩ := h
  exact ⟨readList_eq_ok hcontainers, readList_eq_ok hinit, readList_eq_ok hstatuses,
    readList_eq_ok hinitStatuses⟩

/-- The section of a reported pod under a key. -/
def sectionAt (d : Document) (key : String) : Entries := (valueAt d.entries key).entries

theorem holdsLists_of_pod [EpochRule] {d : Document} {p : Pod} (h : pod d = .ok p) :
  HoldsLists (sectionAt d "spec") (sectionAt d "status") p
  := by
  cases d with
  | object es =>
    obtain ⟨metadata, _, h⟩ := bind_eq_ok_iff.mp h
    obtain ⟨spec, hspec, h⟩ := bind_eq_ok_iff.mp h
    obtain ⟨status, hstatus, h⟩ := bind_eq_ok_iff.mp h
    obtain rfl := sectionOf_eq_ok hspec
    obtain rfl := sectionOf_eq_ok hstatus
    exact holdsLists_of_podOfSections (mapError_eq_ok_iff.mp h)
  | _ => cases fail_ne_ok h

end Source

end PodTable
