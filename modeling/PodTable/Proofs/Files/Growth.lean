import PodTable.Proofs.Outcome
import PodTable.Files.Tree

/-!
# Trees that grow

Making directories and writing files takes nothing away. A directory stays, a file stays or is
written anew, and where nothing is there may come either. `Grows ps t t'` says that `t'` comes
from `t` in this way, with files written at the places `ps` at most.

What names lead to can then change in two ways only: a file there is written, or on the way to it
a new directory shows. `Grows.find_cases` says so of trees in which all stands in directories.
-/

namespace PodTable

namespace FileTree

/-! ### Growth -/

/-- A directory where nothing was, or a file at one of the places `ps` where no directory was, is
all that `t'` has and `t` has not, and all of `t` that is not written anew is in `t'`. -/
def Grows (ps : List Place) (t t' : FileTree) : Prop :=
  ∀ p, t'.occupant? p = t.occupant? p
    ∨ (t.occupant? p = none ∧ t'.occupant? p = some .directory)
    ∨ (p ∈ ps ∧ t.occupant? p ≠ some .directory ∧ ∃ bytes, t'.occupant? p = some (.file bytes))

/-- At the place `p`, `t'` has a directory where `t` has nothing. -/
def IsNew (t t' : FileTree) (p : Place) : Prop :=
  t.occupant? p = none ∧ t'.occupant? p = some .directory

/-- What stands at a place stands in a directory. -/
def IsRooted (t : FileTree) : Prop :=
  ∀ p e, t.occupant? p = some e → t.occupant? p.tail = some .directory

variable {t t' t'' : FileTree} {ps qs : List Place} {p : Place} {names : List String}

theorem Grows.refl (t : FileTree) :
  Grows [] t t
  := fun _ => .inl rfl

theorem Grows.trans (h : Grows ps t t') (h' : Grows qs t' t'') :
  Grows (qs ++ ps) t t''
  := by
  intro p
  obtain heq' | ⟨hnone', hdir'⟩ | ⟨hmem', hne', hfile'⟩ := h' p
  · rw [heq']
    obtain heq | hnew | ⟨hmem, hne, hfile⟩ := h p
    · exact .inl heq
    · exact .inr (.inl hnew)
    · exact .inr (.inr ⟨List.mem_append_right qs hmem, hne, hfile⟩)
  · obtain heq | ⟨-, hdir⟩ | ⟨-, -, bytes, hfile⟩ := h p
    · exact .inr (.inl ⟨heq ▸ hnone', hdir'⟩)
    · cases hnone'.symm.trans hdir
    · cases hnone'.symm.trans hfile
  · refine .inr (.inr ⟨List.mem_append_left ps hmem', ?_, hfile'⟩)
    intro hdir
    obtain heq | ⟨hnone, -⟩ | ⟨-, hne, -⟩ := h p
    · exact hne' (heq.trans hdir)
    · cases hnone.symm.trans hdir
    · exact hne hdir

/-- What is put at a place without a directory stands there. Such a place is not the root. -/
theorem occupant?_put_self (h : t.occupant? p ≠ some .directory) (e : FileEntry) :
  (t.put p e).occupant? p = some e
  := by
  apply occupant?_put
  rintro rfl
  exact h rfl

theorem grows_put_directory (h : t.occupant? p = none) :
  Grows [] t (t.put p .directory)
  := by
  intro q
  by_cases hq : q = p
  · subst hq
    exact .inr (.inl ⟨h, occupant?_put_self (by simp [h]) _⟩)
  · exact .inl (occupant?_put_ne t hq _)

theorem grows_put_file (h : t.occupant? p ≠ some .directory) (bytes : ByteArray) :
  Grows [p] t (t.put p (.file bytes))
  := by
  intro q
  by_cases hq : q = p
  · subst hq
    exact .inr (.inr ⟨List.mem_singleton_self q, h, bytes, occupant?_put_self h _⟩)
  · exact .inl (occupant?_put_ne t hq _)

theorem Grows.directory (h : Grows ps t t') (hp : t.occupant? p = some .directory) :
  t'.occupant? p = some .directory
  := by
  obtain heq | ⟨hnone, -⟩ | ⟨-, hne, -⟩ := h p
  · exact heq.trans hp
  · cases hp.symm.trans hnone
  · contradiction

theorem Grows.file {bytes : ByteArray} (h : Grows ps t t')
    (hp : t.occupant? p = some (.file bytes)) (hps : p ∉ ps) :
  t'.occupant? p = some (.file bytes)
  := by
  obtain heq | ⟨hnone, -⟩ | ⟨hmem, -⟩ := h p
  · exact heq.trans hp
  · cases hp.symm.trans hnone
  · contradiction

/-! ### Ways through a tree that grows -/

/-- The place that a name leads to from a directory. -/
def next (p : Place) (name : String) : Place := if name = ".." then p.tail else name :: p

theorem walk_cons (t : FileTree) (p : Place) (name : String) (names : List String) :
  t.walk p (name :: names) =
    match t.occupant? p with
    | some .directory =>
      if nameLimit < name.utf8ByteSize then .error .tooLong else t.walk (next p name) names
    | some (.file _) => .error .notDirectory
    | none => .error .missing
  := rfl

/-- A way that leads to a place leads there as long as the tree grows. -/
theorem Grows.walk_eq_ok {q : Place} (h : Grows ps t t') (hq : t.walk p names = .ok q) :
  t'.walk p names = .ok q
  := by
  induction names generalizing p with
  | nil => exact hq
  | cons name names ih =>
    rw [walk_cons] at hq ⊢
    split at hq
    · rename_i hp
      rw [h.directory hp]
      split at hq
      · cases hq
      · rename_i hlimit
        simp only [hlimit, if_false]
        exact ih hq
    · cases hq
    · cases hq

/-- Names lead from the root, or are no names in any tree. -/
theorem resolve_cases (names : List String) :
  (∀ t : FileTree, t.resolve names = t.walk [] names)
  ∨ ∃ e, ∀ t : FileTree, t.resolve names = .error e
  := by
  unfold resolve
  split
  · exact .inr ⟨_, fun _ => rfl⟩
  · split
    · exact .inr ⟨_, fun _ => rfl⟩
    · exact .inl fun _ => rfl

theorem Grows.resolve_eq_ok {q : Place} (h : Grows ps t t') (hq : t.resolve names = .ok q) :
  t'.resolve names = .ok q
  := by
  obtain hwalk | ⟨e, herror⟩ := resolve_cases names
  · rw [hwalk] at hq ⊢
    exact h.walk_eq_ok hq
  · cases (herror t).symm.trans hq

/-! ### What a way leads to -/

/-- What stands at the place that names lead to from a place. -/
def follow (t : FileTree) (p : Place) (names : List String) : Except FileTrouble FileEntry := do
  match t.occupant? (← t.walk p names) with
  | some e => .ok e
  | none => .error .missing

theorem follow_nil (t : FileTree) (p : Place) :
  t.follow p [] =
    match t.occupant? p with
    | some e => .ok e
    | none => .error .missing
  := rfl

theorem follow_cons (t : FileTree) (p : Place) (name : String) (names : List String) :
  t.follow p (name :: names) =
    match t.occupant? p with
    | some .directory =>
      if nameLimit < name.utf8ByteSize then .error .tooLong else t.follow (next p name) names
    | some (.file _) => .error .notDirectory
    | none => .error .missing
  := by
  rw [follow, walk_cons]
  split
  · split <;> rfl
  · rfl
  · rfl

/-- Nothing is found. -/
def IsAbsent (found : Except FileTrouble FileEntry) : Prop :=
  found = .error .missing ∨ found = .error .notDirectory

/-- Names lead to a directory that is in `t'` and not in `t`, and end there or go on with a name
that leads back or is too long. -/
inductive LeadsToNew (t t' : FileTree) : Place → List String → Prop
  | here {p : Place} {names : List String} (hnew : IsNew t t' p)
      (h : ∀ name ∈ names.head?, name = ".." ∨ nameLimit < name.utf8ByteSize) :
      LeadsToNew t t' p names
  | further {p : Place} {name : String} {names : List String}
      (hp : t'.occupant? p = some .directory) (hname : name.utf8ByteSize ≤ nameLimit)
      (h : LeadsToNew t t' (next p name) names) :
      LeadsToNew t t' p (name :: names)

/-- Names lead to a file at one of the places `ps`. -/
def LeadsToFile (ps : List Place) (t : FileTree) (p : Place) (names : List String) : Prop :=
  ∃ q ∈ ps, t.walk p names = .ok q ∧ ∃ bytes, t.occupant? q = some (.file bytes)

theorem LeadsToFile.cons {name : String} (hp : t.occupant? p = some .directory)
    (hname : name.utf8ByteSize ≤ nameLimit) (h : LeadsToFile ps t (next p name) names) :
  LeadsToFile ps t p (name :: names)
  := by
  obtain ⟨q, hq, hwalk, hfile⟩ := h
  refine ⟨q, hq, ?_, hfile⟩
  rw [walk_cons, hp, ← hwalk]
  exact if_neg (Nat.not_lt.mpr hname)

/-- From where nothing was, names lead to nothing, to a new directory or to a new file. -/
theorem Grows.follow_of_none (h : Grows ps t t') (ht : IsRooted t) (hp : t.occupant? p = none)
    (names : List String) :
  IsAbsent (t'.follow p names) ∨ LeadsToNew t t' p names ∨ LeadsToFile ps t' p names
  := by
  induction names generalizing p with
  | nil =>
    obtain heq | hnew | ⟨hmem, -, hfile⟩ := h p
    · left; left
      rw [follow_nil, heq, hp]
    · exact .inr (.inl (.here hnew (by simp)))
    · exact .inr (.inr ⟨p, hmem, rfl, hfile⟩)
  | cons name names ih =>
    rw [follow_cons]
    split
    · rename_i hdir
      by_cases hback : name = ".." ∨ nameLimit < name.utf8ByteSize
      · exact .inr (.inl (.here ⟨hp, hdir⟩ (by simpa using hback)))
      · obtain ⟨hdots, hlimit⟩ := not_or.mp hback
        -- What stood below would have stood in a directory.
        have hnext : t.occupant? (next p name) = none := by
          rw [next, if_neg hdots, Option.eq_none_iff_forall_ne_some]
          intro e he
          cases hp.symm.trans (ht _ e he)
        rw [if_neg hlimit]
        obtain habsent | hnew | hfile := ih hnext
        · exact .inl habsent
        · exact .inr (.inl (.further hdir (Nat.not_lt.mp hlimit) hnew))
        · exact .inr (.inr (.cons hdir (Nat.not_lt.mp hlimit) hfile))
    · exact .inl (.inr rfl)
    · exact .inl (.inl rfl)

/-- The induction is on the names, and leaves the way where nothing was before. -/
theorem Grows.follow_cases (h : Grows ps t t') (ht : IsRooted t) (p : Place)
    (names : List String) :
  t'.follow p names = t.follow p names
  ∨ (IsAbsent (t.follow p names) ∧ IsAbsent (t'.follow p names))
  ∨ (IsAbsent (t.follow p names) ∧ LeadsToNew t t' p names)
  ∨ LeadsToFile ps t' p names
  := by
  induction names generalizing p with
  | nil =>
    obtain heq | hnew | ⟨hmem, -, hfile⟩ := h p
    · left
      rw [follow_nil, follow_nil, heq]
    · refine .inr (.inr (.inl ⟨.inl ?_, .here hnew (by simp)⟩))
      rw [follow_nil, hnew.1]
    · exact .inr (.inr (.inr ⟨p, hmem, rfl, hfile⟩))
  | cons name names ih =>
    rw [follow_cons t]
    split
    · rename_i hdir
      have hdir' := h.directory hdir
      rw [follow_cons, hdir']
      by_cases hlimit : nameLimit < name.utf8ByteSize
      · simp [hlimit]
      · simp only [hlimit, if_false]
        have hname := Nat.not_lt.mp hlimit
        obtain heq | hboth | ⟨habsent, hnew⟩ | hfile := ih (next p name)
        · exact .inl heq
        · exact .inr (.inl hboth)
        · exact .inr (.inr (.inl ⟨habsent, .further hdir' hname hnew⟩))
        · exact .inr (.inr (.inr (.cons hdir' hname hfile)))
    · rename_i bytes hfile
      left
      rw [follow_cons]
      obtain heq | ⟨hnone, -⟩ | ⟨-, -, bytes', hfile'⟩ := h p
      · rw [heq, hfile]
      · cases hfile.symm.trans hnone
      · rw [hfile']
    · rename_i hnone
      obtain habsent | hnew | hfile := h.follow_of_none ht hnone (name :: names)
      · exact .inr (.inl ⟨.inl rfl, habsent⟩)
      · exact .inr (.inr (.inl ⟨.inl rfl, hnew⟩))
      · exact .inr (.inr (.inr hfile))

/-- What names lead to stays as long as the tree grows, unless nothing was there and they lead to
a new directory, or they lead to a file that is written. -/
theorem Grows.find_cases (h : Grows ps t t') (ht : IsRooted t) (names : List String) :
  t'.find names = t.find names
  ∨ (IsAbsent (t.find names) ∧ IsAbsent (t'.find names))
  ∨ (IsAbsent (t.find names) ∧ LeadsToNew t t' [] names)
  ∨ ∃ p ∈ ps, t'.resolve names = .ok p ∧ ∃ bytes, t'.occupant? p = some (.file bytes)
  := by
  unfold find
  obtain hwalk | ⟨e, herror⟩ := resolve_cases names
  · simp only [hwalk]
    exact h.follow_cases ht [] names
  · left
    rw [herror, herror]
    rfl

/-! ### What makes a tree grow -/

theorem makeDirectory_eq_ok_iff :
  t.makeDirectory names = .ok t' ↔
    ∃ p, t.resolve names = .ok p ∧ t.occupant? p = none ∧ t.put p .directory = t'
  := by
  rw [makeDirectory, Outcome.bind_eq_ok_iff]
  apply exists_congr
  intro p
  cases t.occupant? p <;> simp

theorem writeFile_eq_ok_iff {bytes : ByteArray} :
  t.writeFile names bytes = .ok t' ↔
    ∃ p, t.resolve names = .ok p ∧ t.occupant? p ≠ some .directory ∧ t.put p (.file bytes) = t'
  := by
  rw [writeFile, Outcome.bind_eq_ok_iff]
  apply exists_congr
  intro p
  split <;> simp_all

/-- Whatever holds of a tree and is kept when a directory is made holds after directories are
made, also when there is trouble. -/
theorem makeDirectories_induction {P : FileTree → Prop}
    (step : ∀ t t' names, P t → t.makeDirectory names = .ok t' → P t')
    (names : List String) (h : P t) :
  P (t.makeDirectories names).1
  := by
  induction names generalizing t with
  | nil => exact h
  | cons name outer ih =>
    rw [makeDirectories]
    split
    · rename_i hmade
      exact step _ _ _ h hmade
    · have houter := ih h
      split
      · rename_i hfailed
        simpa [hfailed] using houter
      · rename_i hdone
        rw [hdone] at houter
        split
        · rename_i hmade
          exact step _ _ _ houter hmade
        · exact houter
    · exact h

theorem grows_makeDirectories (t : FileTree) (names : List String) :
  Grows [] t (t.makeDirectories names).1
  := by
  apply makeDirectories_induction (P := Grows [] t)
  · intro t₁ t₂ names hgrows hmade
    obtain ⟨p, -, hp, rfl⟩ := makeDirectory_eq_ok_iff.mp hmade
    exact hgrows.trans (grows_put_directory hp)
  · apply Grows.refl

/-! ### Trees in which all stands in directories -/

theorem isRooted_empty :
  IsRooted {}
  := by
  rintro (_ | ⟨name, p⟩) e h
  · rfl
  · cases h

theorem IsRooted.walk {q : Place} (ht : IsRooted t) (hp : t.occupant? p.tail = some .directory)
    (hq : t.walk p names = .ok q) :
  t.occupant? q.tail = some .directory
  := by
  induction names generalizing p with
  | nil =>
    cases hq
    exact hp
  | cons name names ih =>
    rw [walk_cons] at hq
    split at hq
    · rename_i hdir
      split at hq
      · cases hq
      · refine ih ?_ hq
        unfold next
        split
        · exact ht _ _ hp
        · exact hdir
    · cases hq
    · cases hq

/-- The place that names lead to is in a directory. -/
theorem IsRooted.resolve (ht : IsRooted t) (hp : t.resolve names = .ok p) :
  t.occupant? p.tail = some .directory
  := by
  obtain hwalk | ⟨e, herror⟩ := resolve_cases names
  · exact ht.walk (p := []) rfl (hwalk t ▸ hp)
  · cases (herror t).symm.trans hp

theorem IsRooted.put (ht : IsRooted t) (hp : t.occupant? p ≠ some .directory)
    (htail : t.occupant? p.tail = some .directory) (e : FileEntry) :
  IsRooted (t.put p e)
  := by
  have kept {q : Place} (hq : t.occupant? q = some .directory) :
      (t.put p e).occupant? q = some .directory := by
    rw [occupant?_put_ne t _ e, hq]
    rintro rfl
    exact hp hq
  intro q e' hq
  apply kept
  by_cases heq : q = p
  · rw [heq, htail]
  · rw [occupant?_put_ne t heq] at hq
    exact ht q e' hq

theorem IsRooted.makeDirectories (ht : IsRooted t) (names : List String) :
  IsRooted (t.makeDirectories names).1
  := by
  refine makeDirectories_induction ?_ names ht
  intro t₁ t₂ names ht₁ hmade
  obtain ⟨p, hresolve, hp, rfl⟩ := makeDirectory_eq_ok_iff.mp hmade
  exact ht₁.put (by simp [hp]) (ht₁.resolve hresolve) _

end FileTree

end PodTable
