import PodTable.Proofs.Agreement
import PodTable.Proofs.Pod.Sections
import PodTable.Time.Reading

/-!
# Documents that are alike

Readers of scalar values refuse every list and every object, and a field with a default takes every
vacuous value for a missing one. So two values are read alike as scalars when they have one shape
(`Document.SameShape`), and as fields with a default when both are vacuous or have one shape
(`Document.SameField`).
-/

namespace PodTable

/-- Lists that differ in one item are related item by item if that item and its replacement are. -/
theorem forall₂_replace {α : Type} {R : α → α → Prop} (hR : ∀ a, R a a) (before after : List α)
    {a b : α} (h : R a b) :
  List.Forall₂ R (before ++ a :: after) (before ++ b :: after)
  := by
  induction before with
  | nil => exact .cons h (List.forall₂_same.mpr (fun a _ => hR a))
  | cons c before ih => exact .cons (hR c) ih

/-- Entries that go together have the same keys. -/
theorem keys_eq_of_forall₂ {α β : Type} {xs : List (String × α)} {ys : List (String × β)}
    (h : List.Forall₂ (fun x y => x.1 = y.1) xs ys) :
  xs.map (·.1) = ys.map (·.1)
  := by
  rwa [← List.forall₂_eq_eq_eq, List.forall₂_map_left_iff, List.forall₂_map_right_iff]

namespace Document

/-- Equal documents, two lists or two objects. No reader of scalar values tells them apart. -/
inductive SameShape : Document → Document → Prop
  | refl (d : Document) : SameShape d d
  | list (ds es : List Document) : SameShape (.list ds) (.list es)
  | object (es fs : Entries) : SameShape (.object es) (.object fs)

/-- Vacuous documents, or documents of one shape that are not vacuous. No reader of a field with a
default tells them apart. -/
inductive SameField (d e : Document) : Prop
  | vacuous (hd : d.isVacuous = true) (he : e.isVacuous = true)
  | shape (hd : d.isVacuous = false) (he : e.isVacuous = false) (h : SameShape d e)

theorem SameShape.trans {d e f : Document} (h : SameShape d e) (h' : SameShape e f) :
  SameShape d f
  := by
  cases h with
  | refl => exact h'
  | list ds es => cases h' <;> exact .list _ _
  | object es fs => cases h' <;> exact .object _ _

namespace SameField

variable {d e f : Document}

theorem refl (d : Document) :
  SameField d d
  := by
  cases h : d.isVacuous with
  | true => exact .vacuous h h
  | false => exact .shape h h (.refl d)

theorem of_shape (h : SameShape d e) (hvacuous : d.isVacuous = e.isVacuous) :
  SameField d e
  := by
  cases hd : d.isVacuous with
  | true => exact .vacuous hd (hvacuous ▸ hd)
  | false => exact .shape hd (hvacuous ▸ hd) h

end SameField

theorem rel_refl {R : Document → Document → Prop} (hR : ∀ d, R d d) (x : Option Document) :
  Option.Rel R x x
  := by
  cases x with
  | none => exact .none
  | some d => exact .some (hR d)

theorem lookup?_append_cons (before after : Entries) (k : String) (d : Document) (key : String) :
  lookup? (before ++ (k, d) :: after) key
    = (lookup? before key).or (if key = k then some d else lookup? after key)
  := by
  simp only [lookup?, List.lookup_append, List.lookup_cons]
  by_cases hkey : key = k
  · simp [hkey]
  · simp [hkey, beq_eq_false_iff_ne.mpr hkey]

/-- A value that is replaced by a related one is so under its key. -/
theorem rel_lookup?_replace {R : Document → Document → Prop} (hR : ∀ d, R d d)
    (before after : Entries) {k key : String} {d e : Document} (h : key = k → R d e) :
  Option.Rel R (lookup? (before ++ (k, d) :: after) key) (lookup? (before ++ (k, e) :: after) key)
  := by
  rw [lookup?_append_cons, lookup?_append_cons]
  cases lookup? before key with
  | some d => exact .some (hR d)
  | none =>
    split_ifs with hkey
    · exact .some (h hkey)
    · exact rel_refl hR _

/-- What holds of related values holds where both are present, and nothing is asked where both are
missing. -/
theorem rel_imp {R S : Document → Document → Prop} (hRS : ∀ d e, R d e → S d e)
    {x y : Option Document} (h : Option.Rel R x y) :
  Option.Rel S x y
  := by
  cases h with
  | none => exact .none
  | some h => exact .some (hRS _ _ h)

theorem rel_getD {R : Document → Document → Prop} {x y : Option Document} (h : Option.Rel R x y)
    {default : Document} (hdefault : R default default) :
  R (x.getD default) (y.getD default)
  := by
  cases h with
  | none => exact hdefault
  | some h => exact h

end Document

namespace Checked

open Document

variable {α : Type}

/-- A reader of scalar values has faults in every list and in every object. -/
structure RefusesParts (read : Document → Checked α) : Prop where
  list : ∀ ds, ∃ fs, read (.list ds) = faulty fs
  object : ∀ es, ∃ fs, read (.object es) = faulty fs

theorem RefusesParts.agree {read : Document → Checked α} (hread : RefusesParts read)
    {d e : Document} (h : SameShape d e) :
  Checked.Agree Eq (read d) (read e)
  := by
  cases h with
  | refl => apply Agree.refl
  | list ds es =>
    obtain ⟨_, hds⟩ := hread.list ds
    obtain ⟨_, hes⟩ := hread.list es
    rw [hds, hes]
    exact .faulty
  | object es fs =>
    obtain ⟨_, hes⟩ := hread.object es
    obtain ⟨_, hfs⟩ := hread.object fs
    rw [hes, hfs]
    exact .faulty

theorem refusesParts_text :
  RefusesParts text
  := ⟨fun _ => ⟨_, rfl⟩, fun _ => ⟨_, rfl⟩⟩

theorem refusesParts_integer :
  RefusesParts integer
  := ⟨fun _ => ⟨_, rfl⟩, fun _ => ⟨_, rfl⟩⟩

theorem refusesParts_count :
  RefusesParts count
  := ⟨fun _ => ⟨_, rfl⟩, fun _ => ⟨_, rfl⟩⟩

theorem refusesParts_flag :
  RefusesParts flag
  := ⟨fun _ => ⟨_, rfl⟩, fun _ => ⟨_, rfl⟩⟩

theorem refusesParts_time [EpochRule] :
  RefusesParts (optional Timestamp.check)
  := ⟨fun _ => ⟨_, rfl⟩, fun _ => ⟨_, rfl⟩⟩

/-- Values of one shape under the same keys are read alike. -/
theorem agree_values_of_forall₂ {read : Document → Checked α} (hread : RefusesParts read)
    {es fs : Entries} (h : List.Forall₂ (fun x y => x.1 = y.1 ∧ SameShape x.2 y.2) es fs) :
  Checked.Agree Eq (values read es) (values read fs)
  := by
  induction h with
  | nil => exact .sound rfl
  | @cons x y es fs h _ ih =>
    obtain ⟨key, d⟩ := x
    obtain ⟨_, e⟩ := y
    obtain ⟨rfl, h⟩ := h
    have hd : Checked.Agree Eq ((read d).under (.name key)) ((read e).under (.name key)) :=
      (hread.agree h).under _ _
    apply Agree.seq (Agree.map hd _) ih
    rintro a _ rfl as _ rfl
    rfl

end Checked

namespace Document

/-- A value under a key, or a default if it is vacuous. -/
theorem lookupOr_eq (es : Entries) (key : String) (default : Document) :
  lookupOr es key default = if (valueAt es key).isVacuous then default else valueAt es key
  := by
  rw [lookupOr, valueAt]
  cases lookup? es key <;> rfl

end Document

end PodTable
