import Mathlib.Data.List.Nodup
import Mathlib.Data.Set.Defs
import PodTable.Proofs.Document.Alike

/-!
# Rearranged documents

Two documents are rearranged when they are equal up to the order of the entries of objects, at any
depth, and up to the order of the items of some lists. Which lists these are is given by the ways
to them: a way is the list of the keys that lead from the whole document to a list. With no free
ways, only the order of entries may differ. The order of entries does not matter to what is looked up
as long as no key stands twice, in documents and in other tables: `perm_iff_lookup_eq`.
-/

namespace PodTable

/-- Equal lists, or lists of the same items in another order if the order is free. -/
def SameUpToOrder {α : Type} (free : Prop) (as bs : List α) : Prop :=
  as.Perm bs ∧ (¬ free → as = bs)

namespace SameUpToOrder

variable {α : Type} {free : Prop} {as bs cs : List α}

theorem of_eq (h : as = bs) :
  SameUpToOrder free as bs
  := ⟨.of_eq h, fun _ => h⟩

theorem of_perm (hfree : free) (h : as.Perm bs) :
  SameUpToOrder free as bs
  := ⟨h, fun hn => absurd hfree hn⟩

theorem trans (h : SameUpToOrder free as bs) (h' : SameUpToOrder free bs cs) :
  SameUpToOrder free as cs
  := ⟨h.1.trans h'.1, fun hn => (h.2 hn).trans (h'.2 hn)⟩

end SameUpToOrder

/-! ### Tables with distinct keys -/

section Tables

variable {α : Type} {es fs : List (String × α)}

/-- With distinct keys, the value under a key is that of the only entry with this key. -/
theorem lookup_eq_some_iff_mem (hkeys : (es.map (·.1)).Nodup) {key : String} {value : α} :
  es.lookup key = some value ↔ (key, value) ∈ es
  := by
  rw [List.lookup_eq_some_iff]
  constructor
  · rintro ⟨before, after, rfl, -⟩
    exact List.mem_append_right before List.mem_cons_self
  · intro h
    obtain ⟨before, after, rfl⟩ := List.append_of_mem h
    refine ⟨before, after, rfl, ?_⟩
    intro e he
    rw [List.map_append, List.nodup_append] at hkeys
    have hne : e.1 ≠ key := hkeys.2.2 _ (List.mem_map_of_mem he) key List.mem_cons_self
    exact bne_iff_ne.mpr hne.symm

/-- Tables with distinct keys are equal up to the order of their entries when they have the same
values under the same keys. -/
theorem perm_iff_lookup_eq (hes : (es.map (·.1)).Nodup) (hfs : (fs.map (·.1)).Nodup) :
  es.Perm fs ↔ ∀ key, es.lookup key = fs.lookup key
  := by
  rw [List.perm_ext_iff_of_nodup (hes.of_map _) (hfs.of_map _), Prod.forall]
  apply forall_congr'
  intro key
  simp only [← lookup_eq_some_iff_mem hes, ← lookup_eq_some_iff_mem hfs]
  constructor
  · exact Option.ext
  · intro h value
    rw [h]

end Tables

/-! ### Rearranged documents -/

namespace Document

/-- What is left, under a key, of the ways that lead there. -/
def beneath (free : Set (List String)) (key : String) : Set (List String) :=
  {way | key :: way ∈ free}

/-- Documents that are equal up to the order of the entries of objects at any depth and of the
items of the lists at the ends of the free ways. -/
inductive Rearranged : Set (List String) → Document → Document → Prop
  | refl {free : Set (List String)} (d : Document) : Rearranged free d d
  | trans {free : Set (List String)} {d e f : Document} (h : Rearranged free d e)
      (h' : Rearranged free e f) : Rearranged free d f
  | entries {free : Set (List String)} {es fs : Entries} (hkeys : (es.map (·.1)).Nodup)
      (h : es.Perm fs) : Rearranged free (.object es) (.object fs)
  | items {free : Set (List String)} {ds es : List Document} (hfree : [] ∈ free)
      (h : ds.Perm es) : Rearranged free (.list ds) (.list es)
  | inEntry {free : Set (List String)} {before after : Entries} {key : String} {d e : Document}
      (h : Rearranged (beneath free key) d e) :
      Rearranged free (.object (before ++ (key, d) :: after))
        (.object (before ++ (key, e) :: after))
  | inItem {free : Set (List String)} {before after : List Document} {d e : Document}
      (h : Rearranged ∅ d e) :
      Rearranged free (.list (before ++ d :: after)) (.list (before ++ e :: after))

/-- With distinct keys, the value under a key does not depend on the order of the entries. -/
theorem lookup?_perm {es fs : Entries} (hkeys : (es.map (·.1)).Nodup) (h : es.Perm fs)
    (key : String) :
  lookup? es key = lookup? fs key
  := (perm_iff_lookup_eq hkeys ((h.map _).nodup_iff.mp hkeys)).mp h key

namespace Rearranged

variable {free : Set (List String)} {d e : Document}

theorem rel_trans {x y z : Option Document} (h : Option.Rel (Rearranged free) x y)
    (h' : Option.Rel (Rearranged free) y z) :
  Option.Rel (Rearranged free) x z
  := by
  cases h with
  | none => exact h'
  | some h =>
    cases h' with
    | some h' => exact .some (h.trans h')

theorem sameShape (h : Rearranged free d e) :
  SameShape d e
  := by
  induction h with
  | refl d => exact .refl d
  | trans _ _ ih ih' => exact ih.trans ih'
  | entries _ _ => exact .object _ _
  | items _ _ => exact .list _ _
  | inEntry _ _ => exact .object _ _
  | inItem _ _ => exact .list _ _

theorem isVacuous_eq (h : Rearranged free d e) :
  d.isVacuous = e.isVacuous
  := by
  induction h with
  | refl d => rfl
  | trans _ _ ih ih' => exact ih.trans ih'
  | entries _ h => exact h.isEmpty_eq
  | items _ h => exact h.isEmpty_eq
  | @inEntry _ before => cases before <;> rfl
  | @inItem _ before => cases before <;> rfl

/-- Rearranged objects have rearranged values under each key. -/
theorem rel_lookup? (h : Rearranged free d e) (key : String) :
  Option.Rel (Rearranged (beneath free key)) (lookup? d.entries key) (lookup? e.entries key)
  := by
  induction h with
  | refl d => exact rel_refl .refl _
  | trans _ _ ih ih' => exact rel_trans ih ih'
  | entries hkeys h =>
    rw [Document.entries, Document.entries, lookup?_perm hkeys h]
    exact rel_refl .refl _
  | items _ _ => exact .none
  | @inEntry _ before after k d e h _ =>
    apply rel_lookup?_replace .refl before after
    rintro rfl
    exact h
  | inItem _ _ => exact .none

theorem valueAt (h : Rearranged free d e) (key : String) :
  Rearranged (beneath free key) (valueAt d.entries key) (valueAt e.entries key)
  := rel_getD (h.rel_lookup? key) (.refl _)

theorem sameField (h : Rearranged free d e) :
  SameField d e
  := .of_shape h.sameShape h.isVacuous_eq

theorem keys_perm (h : Rearranged free d e) :
  (d.entries.map (·.1)).Perm (e.entries.map (·.1))
  := by
  induction h with
  | refl d => exact .refl _
  | trans _ _ ih ih' => exact ih.trans ih'
  | entries _ h => exact h.map _
  | items _ _ => exact .refl _
  | inEntry _ _ => simp [Document.entries]
  | inItem _ _ => exact .refl _

/-- What reads the items of a list alike, whatever the order of entries in them, reads the same
from rearranged lists, up to the order of the items if that is free. -/
theorem agree_mapM {ε α : Type} {f : Document → Except ε α}
    (hf : ∀ d e, Rearranged ∅ d e → Agree Eq (f d) (f e)) (h : Rearranged free d e) :
  Agree (SameUpToOrder ([] ∈ free)) (d.items.mapM f) (e.items.mapM f)
  := by
  induction h with
  | refl d => exact (Agree.refl _).mono (fun _ _ => .of_eq)
  | trans _ _ ih ih' => exact ih.trans ih' (fun _ _ _ => .trans)
  | entries _ _ => exact .ok (.of_eq rfl)
  | items hfree h => exact (Agree.mapM_perm f h).mono (fun _ _ => .of_perm hfree)
  | inEntry _ _ => exact .ok (.of_eq rfl)
  | @inItem _ before after d e h _ =>
    have hitems : List.Forall₂ (fun d e => Agree Eq (f d) (f e)) (before ++ d :: after)
        (before ++ e :: after) := forall₂_replace (fun _ => .refl _) before after (hf d e h)
    exact (Agree.mapM hitems).mono (fun _ _ => .of_eq)

end Rearranged

end Document

end PodTable
