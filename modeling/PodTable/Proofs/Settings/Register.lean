import PodTable.Proofs.Settings.Saving

/-!
# Registers of settings

Each file is a register of settings. After any calls, a path that leads to a file that was saved
loads the settings saved there last, and every other path is loaded as at the start:
`Settings.loads_last_saved`.

Saving makes the directories on the way to a file, also when it fails then. Where default settings
were loaded because nothing was there, a path that ends at such a directory, or goes on from it by
a name that leads back or is too long, may be loaded otherwise. `Settings.LoadsAlike` leaves this
open.
-/

namespace PodTable

namespace Settings

/-! ### Calls -/

/-- A call of the store of settings. -/
inductive Call where
  | load (path : Path)
  | save (path : Path) (s : Settings)

namespace Call

/-- The tree after a call. -/
def next (t : FileTree) : Call → FileTree
  | load _ => t
  | save path s => (Settings.save t path s).1

/-- The file that a call writes, with the settings, if it is a save that returns. -/
def written (t : FileTree) : Call → List (Place × Settings)
  | load _ => []
  | save path s =>
    match Settings.save t path s with
    | (t', .ok _) => ((t'.resolve path.names).toOption.map (·, s)).toList
    | (_, .error _) => []

end Call

/-- The tree after calls. -/
def run (t : FileTree) : List Call → FileTree
  | [] => t
  | c :: calls => run (c.next t) calls

/-- The files that calls write, with the settings, the last ones first. -/
def saved (t : FileTree) : List Call → List (Place × Settings)
  | [] => []
  | c :: calls => saved (c.next t) calls ++ c.written t

/-- The settings that calls save last to the file that a path leads to after them. -/
def lastSaved? (t : FileTree) (calls : List Call) (path : Path) : Option Settings :=
  ((run t calls).resolve path.names).toOption.bind (fun p => (saved t calls).lookup p)

/-! ### What calls keep -/

variable {t t' t'' : FileTree} {r r' : List (Place × Settings)} {path : Path} {s : Settings}

/-- The files in a register hold the text of the settings there, and but for directories where
nothing was all else is as before. -/
structure Keeps (r : List (Place × Settings)) (t t' : FileTree) : Prop where
  grows : FileTree.Grows (r.map Prod.fst) t t'
  holds : ∀ p s, r.lookup p = some s → t'.occupant? p = some (.file s.text.toUTF8)

theorem Keeps.of_grows (h : FileTree.Grows [] t t') :
  Keeps [] t t'
  := ⟨h, by simp⟩

theorem lookup_eq_none_iff {p : Place} :
  r.lookup p = none ↔ p ∉ r.map Prod.fst
  := by
  rw [List.lookup_eq_none_iff]
  simp only [List.mem_map, not_exists, not_and, bne_iff_ne]
  exact forall₂_congr fun e _ => ne_comm

theorem Keeps.trans (h : Keeps r t t') (h' : Keeps r' t' t'') :
  Keeps (r' ++ r) t t''
  := by
  constructor
  · rw [List.map_append]
    exact h.grows.trans h'.grows
  · intro p s hp
    rw [List.lookup_append, Option.or_eq_some_iff] at hp
    obtain hlast | ⟨hnone, hbefore⟩ := hp
    · exact h'.holds p s hlast
    · exact h'.grows.file (h.holds p s hbefore) (lookup_eq_none_iff.mp hnone)

theorem written_of_save_eq_ok {path' : Path} (h : save t path s = (t', .ok path')) :
  ∃ p, (Call.save path s).written t = [(p, s)]
    ∧ t'.resolve path.names = .ok p
    ∧ Keeps [(p, s)] t t'
  := by
  obtain ⟨p, hp, hfile, hgrows⟩ := save_eq_ok h
  refine ⟨p, ?_, hp, hgrows, ?_⟩
  · simp only [Call.written, h, hp]
    rfl
  · intro q s' hq
    rw [List.lookup_cons] at hq
    split at hq
    · rename_i heq
      cases hq
      rw [eq_of_beq heq, hfile]
    · cases hq

theorem written_of_save_eq_error {f : SaveFailure} (h : save t path s = (t', .error f)) :
  (Call.save path s).written t = [] ∧ Keeps [] t t'
  := by
  constructor
  · simp only [Call.written, h]
  · exact .of_grows (save_eq_error h)

/-- A call writes what it saves. -/
theorem keeps_next (t : FileTree) (c : Call) :
  Keeps (c.written t) t (c.next t)
  := by
  cases c with
  | load path => exact .of_grows (.refl t)
  | save path s =>
    obtain ⟨f, hsave⟩ | ⟨_, -, -, hsave⟩ := save_cases t path s
    · obtain ⟨hwritten, hkeeps⟩ := written_of_save_eq_error hsave
      rwa [Call.next, hsave, hwritten]
    · obtain ⟨p, hwritten, -, hkeeps⟩ := written_of_save_eq_ok hsave
      rwa [Call.next, hsave, hwritten]

/-- Calls write what they save. -/
theorem keeps_run (t : FileTree) (calls : List Call) :
  Keeps (saved t calls) t (run t calls)
  := by
  induction calls generalizing t with
  | nil => exact .of_grows (.refl t)
  | cons c calls ih => exact (keeps_next t c).trans (ih (c.next t))

theorem isRooted_run (ht : t.IsRooted) (calls : List Call) :
  (run t calls).IsRooted
  := by
  induction calls generalizing t with
  | nil => exact ht
  | cons c calls ih =>
    apply ih
    cases c with
    | load path => exact ht
    | save path s => exact isRooted_save ht path s

/-! ### What is loaded -/

variable {room : Yaml.Room}

/-- A path is loaded from `t'` as from `t`, or default settings were loaded from `t` and the path
leads to a directory that is in `t'` and not in `t`. -/
def LoadsAlike (room : Yaml.Room) (t t' : FileTree) (path : Path) : Prop :=
  load room t' path = load room t path
  ∨ (load room t path = .ok {} ∧ FileTree.LeadsToNew t t' [] path.names)

theorem load_of_isAbsent (h : FileTree.IsAbsent (t.find path.names)) :
  load room t path = .ok {}
  := by
  unfold load
  obtain hmissing | hdirectory := h
  · rw [hmissing]
  · rw [hdirectory]

theorem load_congr (h : t'.find path.names = t.find path.names) :
  load room t' path = load room t path
  := by
  rw [load, load, h]

/-- Where a path leads to no file in a register, it is loaded as before. -/
theorem Keeps.loadsAlike (h : Keeps r t t') (ht : t.IsRooted)
    (hpath : ∀ p, t'.resolve path.names = .ok p → r.lookup p = none) :
  LoadsAlike room t t' path
  := by
  obtain heq | ⟨habsent, habsent'⟩ | ⟨habsent, hnew⟩ | ⟨p, hmem, hp, -⟩ :=
    h.grows.find_cases ht path.names
  · exact .inl (load_congr heq)
  · left
    rw [load_of_isAbsent habsent, load_of_isAbsent habsent']
  · exact .inr ⟨load_of_isAbsent habsent, hnew⟩
  · exact absurd hmem (lookup_eq_none_iff.mp (hpath p hp))

theorem lastSaved?_eq_some_iff {calls : List Call} :
  lastSaved? t calls path = some s ↔
    ∃ p, (run t calls).resolve path.names = .ok p ∧ (saved t calls).lookup p = some s
  := by
  simp only [lastSaved?, Option.bind_eq_some_iff, Outcome.toOption_eq_some_iff]

theorem load_of_lastSaved? {calls : List Call} (h : lastSaved? t calls path = some s)
    (hvalid : s.IsValid) (hread : s.IsReadBack room) :
  load room (run t calls) path = .ok s
  := by
  obtain ⟨p, hp, hlast⟩ := lastSaved?_eq_some_iff.mp h
  exact load_eq_ok hp ((keeps_run t calls).holds p s hlast) hvalid hread

theorem loadsAlike_of_lastSaved? {calls : List Call} (ht : t.IsRooted)
    (h : lastSaved? t calls path = none) :
  LoadsAlike room t (run t calls) path
  := by
  apply (keeps_run t calls).loadsAlike ht
  intro p hp
  rw [Option.eq_none_iff_forall_ne_some] at h ⊢
  intro s hs
  exact h s (lastSaved?_eq_some_iff.mpr ⟨p, hp, hs⟩)

/-! ### One save -/

/-- What a save does to the settings that paths load. -/
structure IsStore (room : Yaml.Room) (t : FileTree) : Prop where
  /-- Settings that are saved are loaded until the next save to the file. -/
  load_saved : ∀ path s path' t', s.IsValid → s.IsReadBack room → save t path s = (t', .ok path') →
    ∃ p, t'.resolve path.names = .ok p
      ∧ ∀ calls, p ∉ (saved t' calls).map Prod.fst → load room (run t' calls) path = .ok s
  /-- A save to one file changes nothing for a path that does not lead to this file. -/
  load_other : ∀ path s path' t', save t path s = (t', .ok path') →
    ∀ other : Path, t'.resolve other.names ≠ t'.resolve path.names → LoadsAlike room t t' other
  /-- A save that fails changes nothing for any path. -/
  load_failed : ∀ path s f t', save t path s = (t', .error f) → ∀ other, LoadsAlike room t t' other
  /-- Settings that are loaded and saved again are loaded again. -/
  load_loaded : ∀ path s path' t', load room t path = .ok s → s.IsReadBack room →
    save t path s = (t', .ok path') → load room t' path = .ok s

theorem load_run_of_save {path' : Path} (h : save t path s = (t', .ok path'))
    (hvalid : s.IsValid) (hread : s.IsReadBack room) :
  ∃ p, t'.resolve path.names = .ok p
    ∧ ∀ calls, p ∉ (saved t' calls).map Prod.fst → load room (run t' calls) path = .ok s
  := by
  obtain ⟨p, -, hp, hkeeps⟩ := written_of_save_eq_ok h
  refine ⟨p, hp, ?_⟩
  intro calls hcalls
  have hrun := (keeps_run t' calls).grows
  have hfile := hkeeps.holds p s (by simp)
  exact load_eq_ok (hrun.resolve_eq_ok hp) (hrun.file hfile hcalls) hvalid hread

theorem loadsAlike_of_save {path' other : Path} (ht : t.IsRooted)
    (h : save t path s = (t', .ok path'))
    (hother : t'.resolve other.names ≠ t'.resolve path.names) :
  LoadsAlike room t t' other
  := by
  obtain ⟨p, -, hp, hkeeps⟩ := written_of_save_eq_ok h
  apply hkeeps.loadsAlike ht
  intro q hq
  rw [lookup_eq_none_iff]
  simp only [List.map_cons, List.map_nil, List.mem_singleton]
  rintro rfl
  exact hother (hq.trans hp.symm)

theorem isStore_of_isRooted (ht : t.IsRooted) :
  IsStore room t
  where
  load_saved _ _ _ _ hvalid hread hsave := load_run_of_save hsave hvalid hread
  load_other _ _ _ _ hsave _ hother := loadsAlike_of_save ht hsave hother
  load_failed _ _ _ _ hsave _ := (written_of_save_eq_error hsave).2.loadsAlike ht (fun _ _ => rfl)
  load_loaded path s _ _ hload hread hsave := by
    obtain ⟨p, -, hrun⟩ := load_run_of_save hsave (isValid_of_load room path hload) hread
    exact hrun [] (by simp [saved])

/-! ### Registers -/

/-- After calls, a path that leads to a file loads the settings saved there last, if they are valid
and their text is read back, and loads as at the start where nothing was saved. What a further save
does is told by `IsStore`. -/
theorem loads_last_saved (ht : t.IsRooted) (calls : List Call) :
  (∀ path s, lastSaved? t calls path = some s → s.IsValid → s.IsReadBack room →
    load room (run t calls) path = .ok s)
  ∧ (∀ path, lastSaved? t calls path = none → LoadsAlike room t (run t calls) path)
  ∧ IsStore room (run t calls)
  := by
  refine ⟨?_, ?_, isStore_of_isRooted (isRooted_run ht calls)⟩
  · intro path s hlast hvalid hread
    exact load_of_lastSaved? hlast hvalid hread
  · intro path hlast
    exact loadsAlike_of_lastSaved? ht hlast

/-! ### Settings with a color text that needs escapes -/

/-- Settings with a color text of mixed case between blanks, with a tab, a line end and a digit of
another script. -/
def marked : Settings :=
  { showWideColumns := true, palette := { error := " RGB( 1 ,\t٢,3 )\n" } }

theorem isValid_marked :
  marked.IsValid
  := by
  have hcolor : (Color.ofText (marked.palette.colorFor .error)).toOption
      = some (.mixed 1 2 3) := by
    decide +kernel
  have hdefault (c : Category) (h : c ≠ .error) :
      marked.palette.colorFor c = ({} : Palette).colorFor c := by
    cases c with
    | error => contradiction
    | _ => rfl
  apply isValid_iff.mpr
  intro c
  by_cases h : c = .error
  · rw [h]
    exact ⟨.mixed 1 2 3, Outcome.toOption_eq_some_iff.mp hcolor⟩
  · rw [hdefault c h]
    exact Palette.isValid_default c

/-- The nodes of the text of the settings. -/
def markedNodes : Array Yaml.Node :=
  let leaf (s : String) : Yaml.Node := ⟨.text, .scalar (.ofString s)⟩
  #[ ⟨.mapping, .mapping [(1, 2), (3, 4)]⟩,
    leaf "show_wide_columns", ⟨.flag, .scalar (.ofString "true")⟩, leaf "palette",
    ⟨.mapping, .mapping [(5, 6), (7, 8), (9, 10), (11, 12), (13, 14), (15, 16), (17, 18)]⟩,
    leaf "pending", leaf "dark_orange", leaf "creating", leaf "dodger_blue1", leaf "highlight",
    leaf "aquamarine1", leaf "completed", leaf "light_slate_grey", leaf "standard",
    leaf "light_sky_blue1", leaf "error", leaf " RGB( 1 ,\t٢,3 )\n", leaf "kill",
    leaf "medium_purple" ]

theorem isReadBack_marked :
  marked.IsReadBack {}
  := by
  have hnodes : (Yaml.node {} marked.text).toOption.map (fun r => (r.1, r.2.nodes))
      = some (0, markedNodes) := by
    decide +kernel
  obtain ⟨⟨i, ⟨nodes⟩⟩, hnode, heq⟩ := Option.map_eq_some_iff.mp hnodes
  cases heq
  rw [IsReadBack, Yaml.read, Outcome.toOption_eq_some_iff.mp hnode]
  rfl

/-- A path into a directory, which is made for it. -/
def markedPath : Path := ⟨.working, ["conf", "settings.yaml"]⟩

/-- A save to the path, one to its directory, which fails, and one to another file. -/
def markedCalls : List Call :=
  [.save markedPath marked, .save ⟨.working, ["conf"]⟩ marked, .load markedPath,
    .save ⟨.working, ["other.yaml"]⟩ marked]

theorem loads_last_saved_of_marked :
  FileTree.IsRooted {}
  ∧ marked.IsValid
  ∧ marked.IsReadBack {}
  ∧ load {} (run {} markedCalls) markedPath = .ok marked
  ∧ LoadsAlike {} {} (run {} markedCalls) ⟨.working, ["else.yaml"]⟩
  ∧ IsStore {} (run {} markedCalls)
  := by
  obtain ⟨hlast, hother, hstore⟩ := loads_last_saved FileTree.isRooted_empty markedCalls
  use FileTree.isRooted_empty, isValid_marked, isReadBack_marked
  have hload := hlast markedPath marked rfl isValid_marked isReadBack_marked
  have halike := hother ⟨.working, ["else.yaml"]⟩ rfl
  exact ⟨hload, halike, hstore⟩

/-! ### A save that fails after it made a directory -/

/-- A path that goes into a directory and back. Saving to it makes the directory, and then fails
because the path leads to the root. -/
def returningPath : Path := ⟨.working, ["new", ".."]⟩

/-- After a failed save the directory it made is found where default settings were loaded. -/
theorem load_after_failed_save :
  (save {} returningPath {}).2 = .error (.reported ⟨returningPath⟩)
  ∧ load {} {} ⟨.working, ["new"]⟩ = .ok {}
  ∧ load {} (save {} returningPath {}).1 ⟨.working, ["new"]⟩
    = .error (.reported (.unread ⟨.working, ["new"]⟩ .files))
  := ⟨rfl, rfl, rfl⟩

end Settings

end PodTable
