import Mathlib.Data.List.Forall2
import Mathlib.Tactic.Common
import PodTable.Checked

/-!
# Agreement of outcomes

Two outcomes agree up to a relation when both are failures, whatever their errors are, or both are
values that are related. Steps that agree can be put one after another, and a list of steps agrees
with the same steps in another order up to the order of the values. The same goes for checked
readings, whose faults do not count.
-/

namespace PodTable

/-- Both outcomes are failures, or both are values and related. -/
inductive Agree {ε ε' α β : Type} (R : α → β → Prop) : Except ε α → Except ε' β → Prop
  | ok {a : α} {b : β} (h : R a b) : Agree R (.ok a) (.ok b)
  | error {e : ε} {e' : ε'} : Agree R (.error e) (.error e')

namespace Agree

variable {ε ε' ε'' α β γ δ : Type} {R : α → β → Prop} {x : Except ε α} {y : Except ε' β}

theorem refl (x : Except ε α) :
  Agree Eq x x
  := by
  cases x with
  | error e => exact .error
  | ok a => exact .ok rfl

theorem mono {S : α → β → Prop} (h : Agree R x y) (hRS : ∀ a b, R a b → S a b) :
  Agree S x y
  := by
  cases h with
  | error => exact .error
  | ok h => exact .ok (hRS _ _ h)

theorem trans {S : β → γ → Prop} {T : α → γ → Prop} {z : Except ε'' γ} (hxy : Agree R x y)
    (hyz : Agree S y z) (hT : ∀ a b c, R a b → S b c → T a c) :
  Agree T x z
  := by
  cases hxy with
  | error =>
    cases hyz with
    | error => exact .error
  | ok h =>
    cases hyz with
    | ok h' => exact .ok (hT _ _ _ h h')

/-- Outcomes agree when outcomes equal to them up to errors do. -/
theorem congr {x' : Except ε α} {y' : Except ε' β} (h : Agree R x' y') (hx : Agree Eq x x')
    (hy : Agree Eq y y') :
  Agree R x y
  := by
  cases hx with
  | error =>
    cases h with
    | error =>
      cases hy with
      | error => exact .error
  | ok hx =>
    cases h with
    | ok h =>
      cases hy with
      | ok hy => exact .ok (hx ▸ hy ▸ h)

theorem bind {S : γ → δ → Prop} {k : α → Except ε γ} {l : β → Except ε' δ} (h : Agree R x y)
    (hkl : ∀ a b, R a b → Agree S (k a) (l b)) :
  Agree S (x >>= k) (y >>= l)
  := by
  cases h with
  | error => exact .error
  | ok h => exact hkl _ _ h

theorem map {S : γ → δ → Prop} {f : α → γ} {g : β → δ} (h : Agree R x y)
    (hfg : ∀ a b, R a b → S (f a) (g b)) :
  Agree S (x.map f) (y.map g)
  := by
  cases h with
  | error => exact .error
  | ok h => exact .ok (hfg _ _ h)

theorem mapError {f : ε → γ} {g : ε' → δ} (h : Agree R x y) :
  Agree R (x.mapError f) (y.mapError g)
  := by
  cases h with
  | error => exact .error
  | ok h => exact .ok h

theorem exists_ok {a : α} (h : Agree R x y) (hx : x = .ok a) :
  ∃ b, y = .ok b ∧ R a b
  := by
  cases h with
  | error => cases hx
  | ok h =>
    cases hx
    exact ⟨_, rfl, h⟩

theorem eq_ok_iff {y : Except ε' α} (h : Agree Eq x y) (a : α) :
  x = .ok a ↔ y = .ok a
  := by
  cases h with
  | error => simp
  | ok h => simp [h]

/-! ### Lists of steps -/

theorem mapM {f : γ → Except ε α} {g : δ → Except ε' α} {xs : List γ} {ys : List δ}
    (h : List.Forall₂ (fun x y => Agree Eq (f x) (g y)) xs ys) :
  Agree Eq (xs.mapM f) (ys.mapM g)
  := by
  induction h with
  | nil => exact .ok rfl
  | cons h _ ih =>
    rw [List.mapM_cons, List.mapM_cons]
    apply h.bind
    rintro a _ rfl
    apply ih.bind
    rintro as _ rfl
    exact .ok rfl

/-- Steps in another order have the same values in another order, or fail as well. -/
theorem mapM_perm (f : γ → Except ε α) {xs ys : List γ} (h : xs.Perm ys) :
  Agree List.Perm (xs.mapM f) (ys.mapM f)
  := by
  induction h with
  | nil => exact .ok .nil
  | cons x _ ih =>
    rw [List.mapM_cons, List.mapM_cons]
    apply (refl (f x)).bind
    rintro a _ rfl
    apply ih.bind
    intro as bs habs
    exact .ok (habs.cons a)
  | swap x y xs =>
    simp only [List.mapM_cons]
    cases f x with
    | error e => cases f y <;> exact .error
    | ok a =>
      cases f y with
      | error e => exact .error
      | ok b =>
        cases xs.mapM f with
        | error e => exact .error
        | ok as => exact .ok (.swap a b as)
  | trans _ _ ih ih' => exact ih.trans ih' (fun _ _ _ => List.Perm.trans)

end Agree

/-! ### Checked readings -/

/-- Both readings have faults, or both are values and related. -/
inductive Checked.Agree {α β : Type} (R : α → β → Prop) : Checked α → Checked β → Prop
  | sound {a : α} {b : β} (h : R a b) : Checked.Agree R (.sound a) (.sound b)
  | faulty {fs gs : List Fault} : Checked.Agree R (.faulty fs) (.faulty gs)

namespace Checked.Agree

variable {α β γ δ : Type} {R : α → β → Prop} {S : γ → δ → Prop} {x : Checked α} {y : Checked β}

theorem refl (x : Checked α) :
  Checked.Agree Eq x x
  := by
  cases x with
  | sound a => exact .sound rfl
  | faulty fs => exact .faulty

theorem mono {T : α → β → Prop} (h : Checked.Agree R x y) (hRT : ∀ a b, R a b → T a b) :
  Checked.Agree T x y
  := by
  cases h with
  | faulty => exact .faulty
  | sound h => exact .sound (hRT _ _ h)

theorem trans {T : β → γ → Prop} {U : α → γ → Prop} {z : Checked γ} (hxy : Checked.Agree R x y)
    (hyz : Checked.Agree T y z) (hU : ∀ a b c, R a b → T b c → U a c) :
  Checked.Agree U x z
  := by
  cases hxy with
  | faulty =>
    cases hyz with
    | faulty => exact .faulty
  | sound h =>
    cases hyz with
    | sound h' => exact .sound (hU _ _ _ h h')

theorem of_sound (h : ∀ a, x = .sound a → ∃ b, y = .sound b ∧ R a b)
    (h' : ∀ b, y = .sound b → ∃ a, x = .sound a) :
  Checked.Agree R x y
  := by
  cases x with
  | sound a =>
    obtain ⟨b, rfl, hab⟩ := h a rfl
    exact .sound hab
  | faulty fs =>
    cases y with
    | sound b =>
      obtain ⟨_, ⟨⟩⟩ := h' b rfl
    | faulty gs => exact .faulty

theorem map {f : α → γ} {g : β → δ} (h : Checked.Agree R x y)
    (hfg : ∀ a b, R a b → S (f a) (g b)) :
  Checked.Agree S (f <$> x) (g <$> y)
  := by
  cases h with
  | sound h => exact .sound (hfg _ _ h)
  | faulty => exact .faulty

/-- Functions that are read take related values to related values. -/
theorem seq {f : Checked (α → γ)} {g : Checked (β → δ)}
    (h : Checked.Agree (fun f g => ∀ a b, R a b → S (f a) (g b)) f g) (hxy : Checked.Agree R x y) :
  Checked.Agree S (f <*> x) (g <*> y)
  := by
  cases h with
  | faulty => cases hxy <;> exact .faulty
  | sound h =>
    cases hxy with
    | sound hab => exact .sound (h _ _ hab)
    | faulty => exact .faulty

theorem under (h : Checked.Agree R x y) (s t : Step) :
  Checked.Agree R (x.under s) (y.under t)
  := by
  cases h with
  | sound h => exact .sound h
  | faulty => exact .faulty

end Checked.Agree

end PodTable
