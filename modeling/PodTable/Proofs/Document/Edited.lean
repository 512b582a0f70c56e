import Mathlib.Logic.Relation
import PodTable.Proofs.Document.Alike

/-!
# Edited documents

An outline tells which parts of a document are read, and how. One edit adds an entry to an object,
at any depth, that is the same as a missing one: its key is not read, or its value counts as
missing. Edited documents are those that edits, made or undone, lead from one to the other.
-/

namespace PodTable

/-- What is read of a document, and how. -/
inductive Outline where
  /-- Nothing is read. -/
  | unread
  /-- A scalar value, null being a value. -/
  | exact
  /-- A scalar value that is missing if it is null. -/
  | nullable
  /-- A scalar value that is missing if it is vacuous. -/
  | defaulted
  /-- An object with scalar values under all of its keys. -/
  | table (hasDefault : Bool)
  /-- A list of items. -/
  | list (item : Outline)
  /-- An object with values under the given keys. -/
  | record (fields : List (String × Outline))

namespace Outline

/-- What is read under a key. -/
def under : Outline → String → Outline
  | record fields, key => (fields.lookup key).getD .unread
  | table _, _ => .exact
  | _, _ => .unread

/-- What is read of the items of a list. -/
def item : Outline → Outline
  | list o => o
  | _ => .unread

/-- Every vacuous value counts as missing. -/
def hasDefault : Outline → Bool
  | defaulted => true
  | table hasDefault => hasDefault
  | _ => false

/-- No value but null counts as missing. -/
def nullIsMissing : Outline → Bool
  | nullable => true
  | table hasDefault => !hasDefault
  | list _ => true
  | record _ => true
  | _ => false

/-- A value is the same as a missing one. -/
inductive Ignores (o : Outline) (d : Document) : Prop
  | unread (ho : o = .unread)
  | null (ho : o.nullIsMissing = true) (hd : d = .null)
  | vacuous (ho : o.hasDefault = true) (hd : d.isVacuous = true)

namespace Ignores

variable {o : Outline} {d : Document}

theorem ne_exact (h : o.Ignores d) :
  o ≠ .exact
  := by
  rintro rfl
  cases h <;> contradiction

theorem eq_null (h : o.Ignores d) (ho : o.nullIsMissing = true) :
  d = .null
  := by
  cases h with
  | unread hunread =>
    rw [hunread] at ho
    cases ho
  | null _ hd => exact hd
  | vacuous hdefault _ =>
    cases o <;> simp_all [nullIsMissing, hasDefault]

theorem isVacuous (h : o.Ignores d) (ho : o.hasDefault = true) :
  d.isVacuous = true
  := by
  cases h with
  | unread hunread =>
    rw [hunread] at ho
    cases ho
  | null _ hd => rw [hd, Document.isVacuous]
  | vacuous _ hd => exact hd

end Ignores

end Outline

namespace Document

/-- Documents with at most one entry added, that is the same as a missing one. With `inEmpty` it may
be the first entry of an object that itself counts as missing while it is empty. -/
inductive Edit (inEmpty : Bool) : Outline → Document → Document → Prop
  | refl {o : Outline} (d : Document) : Edit inEmpty o d d
  | added {o : Outline} {before after : Entries} {key : String} {d : Document}
      (hkey : lookup? (before ++ after) key = none) (hd : (o.under key).Ignores d)
      (hempty : inEmpty = true ∨ o.hasDefault = false ∨ before ++ after ≠ []) :
      Edit inEmpty o (.object (before ++ after)) (.object (before ++ (key, d) :: after))
  | inEntry {o : Outline} {before after : Entries} {key : String} {d e : Document}
      (h : Edit inEmpty (o.under key) d e) :
      Edit inEmpty o (.object (before ++ (key, d) :: after))
        (.object (before ++ (key, e) :: after))
  | inItem {o : Outline} {before after : List Document} {d e : Document}
      (h : Edit inEmpty o.item d e) :
      Edit inEmpty o (.list (before ++ d :: after)) (.list (before ++ e :: after))

/-- Documents that are made of one another by adding and removing entries. -/
def Edited (inEmpty : Bool) (o : Outline) : Document → Document → Prop :=
  Relation.EqvGen (Edit inEmpty o)

theorem entries_of_isVacuous {d : Document} (h : d.isVacuous = true) :
  d.entries = []
  := by
  cases d with
  | object es => exact List.isEmpty_iff.mp h
  | _ => rfl

namespace Edit

variable {inEmpty : Bool} {o : Outline} {d e : Document}

theorem sameShape (h : Edit inEmpty o d e) :
  SameShape d e
  := by
  cases h with
  | refl => exact .refl d
  | added => exact .object _ _
  | inEntry => exact .object _ _
  | inItem => exact .list _ _

/-- The value under a key is edited, or it is an added value that is the same as a missing one. -/
theorem lookup?_cases (h : Edit inEmpty o d e) (key : String) :
  Option.Rel (Edit inEmpty (o.under key)) (lookup? d.entries key) (lookup? e.entries key)
  ∨ (lookup? d.entries key = none
      ∧ ∃ v, lookup? e.entries key = some v ∧ (o.under key).Ignores v)
  := by
  cases h with
  | refl => exact .inl (rel_refl .refl _)
  | @added _ before after k v hk hv _ =>
    simp only [entries, lookup?_append_cons]
    have happend : lookup? (before ++ after) key
        = (lookup? before key).or (lookup? after key) := List.lookup_append
    rw [happend]
    split_ifs with hkey
    · subst hkey
      rw [happend, Option.or_eq_none_iff] at hk
      rw [hk.1, hk.2]
      exact .inr ⟨rfl, v, rfl, hv⟩
    · exact .inl (rel_refl .refl _)
  | @inEntry _ before after k _ _ h =>
    apply Or.inl
    apply rel_lookup?_replace .refl before after
    rintro rfl
    exact h
  | inItem => exact .inl .none

theorem rel_lookup? (h : Edit inEmpty o d e) (key : String) (hkey : o.under key = .exact) :
  Option.Rel SameShape (lookup? d.entries key) (lookup? e.entries key)
  := by
  obtain h | ⟨_, v, _, hv⟩ := h.lookup?_cases key
  · exact rel_imp (fun _ _ => sameShape) h
  · exact absurd hkey hv.ne_exact

theorem valueAt (h : Edit inEmpty o d e) (key : String)
    (hkey : (o.under key).nullIsMissing = true) :
  Edit inEmpty (o.under key) (valueAt d.entries key) (valueAt e.entries key)
  := by
  obtain h | ⟨hd, v, he, hv⟩ := h.lookup?_cases key
  · exact rel_getD h (.refl _)
  · rw [Document.valueAt, Document.valueAt, hd, he, hv.eq_null hkey]
    exact .refl _

theorem items (h : Edit inEmpty o d e) :
  List.Forall₂ (Edit inEmpty o.item) d.items e.items
  := by
  cases h with
  | refl => exact List.forall₂_same.mpr (fun d _ => .refl d)
  | added => exact .nil
  | inEntry => exact .nil
  | @inItem _ before after _ _ h => exact forall₂_replace .refl before after h

/-- No entry is added to a table. -/
theorem table_entries {hasDefault : Bool} (h : Edit inEmpty (.table hasDefault) d e) :
  List.Forall₂ (fun x y => x.1 = y.1 ∧ SameShape x.2 y.2) d.entries e.entries
  := by
  have hrefl (x : String × Document) : x.1 = x.1 ∧ SameShape x.2 x.2 := ⟨rfl, .refl _⟩
  cases h with
  | refl => exact List.forall₂_same.mpr (fun x _ => hrefl x)
  | added _ hd _ => exact absurd rfl hd.ne_exact
  | @inEntry _ before after _ _ _ h => exact forall₂_replace hrefl before after ⟨rfl, h.sameShape⟩
  | inItem => exact .nil

/-- An object that counts as missing while it is empty stays empty, or has entries throughout. -/
theorem isVacuous_eq (h : Edit false o d e) (ho : o.hasDefault = true) :
  d.isVacuous = e.isVacuous
  := by
  cases h with
  | refl => rfl
  | @added _ before after _ _ _ _ hempty =>
    obtain hin | hnone | hne := hempty
    · cases hin
    · cases ho.symm.trans hnone
    · cases before <;> cases after <;> first | rfl | exact absurd rfl hne
  | @inEntry _ before => cases before <;> rfl
  | @inItem _ before => cases before <;> rfl

/-- Values of a field with a default are edited, or both of them are missing. -/
theorem valueAt_cases (h : Edit inEmpty o d e) (key : String)
    (hkey : (o.under key).hasDefault = true) :
  Edit inEmpty (o.under key) (Document.valueAt d.entries key) (Document.valueAt e.entries key)
  ∨ ((Document.valueAt d.entries key).isVacuous = true
      ∧ (Document.valueAt e.entries key).isVacuous = true)
  := by
  obtain h | ⟨hd, v, he, hv⟩ := h.lookup?_cases key
  · exact .inl (rel_getD h (.refl _))
  · rw [Document.valueAt, Document.valueAt, hd, he]
    exact .inr ⟨rfl, hv.isVacuous hkey⟩

theorem sameField (h : Edit false o d e) (key : String) (hkey : (o.under key).hasDefault = true) :
  SameField (Document.valueAt d.entries key) (Document.valueAt e.entries key)
  := by
  obtain h | ⟨hd, he⟩ := h.valueAt_cases key hkey
  · exact .of_shape h.sameShape (h.isVacuous_eq hkey)
  · exact .vacuous hd he

/-- Tables with a default have the same entries, or both of them are missing. -/
theorem valueAt_entries (h : Edit inEmpty o d e) (key : String) (hkey : o.under key = .table true) :
  List.Forall₂ (fun x y => x.1 = y.1 ∧ SameShape x.2 y.2) (Document.valueAt d.entries key).entries
    (Document.valueAt e.entries key).entries
  := by
  obtain h | ⟨hd, he⟩ := h.valueAt_cases key (by rw [hkey]; rfl)
  · rw [hkey] at h
    exact h.table_entries
  · rw [entries_of_isVacuous hd, entries_of_isVacuous he]
    exact .nil

end Edit

end Document

end PodTable
