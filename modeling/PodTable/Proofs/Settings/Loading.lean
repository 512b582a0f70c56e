import PodTable.Proofs.Yaml.Nesting
import PodTable.Settings.File

/-!
# Loading settings

Loading settings gives settings or reports an error when the file is legible: its bytes are a text,
and the only thing that may be wrong with this text as such is that it is malformed. Default
settings stand in for a reported error. A file that is not legible stops the program, also where
default settings were asked for. `Settings.load_settles_iff` says so of every tree and path, and of
every room that the interpreter may have for calls within calls. `Settings.load_of_brackets` says
what comes of a file of brackets, for which no room is enough.
-/

namespace PodTable

namespace Settings

/-! ### Legible files -/

/-- Reading a text ends with a document, or shows that the text is malformed. It ends with no other
defect: neither at a scalar, nor because the text is too deep. -/
def IsReadThrough (room : Yaml.Room) (text : String) : Prop :=
  ∀ defect, Yaml.read room depth text = .error defect → defect = .malformed

/-- The bytes are a text, which with its line ends unified is read through. -/
def IsLegible (room : Yaml.Room) (bytes : ByteArray) : Prop :=
  ∃ text : String, text.toUTF8 = bytes
    ∧ IsReadThrough room (String.ofList (unifyLines text.toList))

/-- No name in the path is too long, and if the path leads to a file, the file is legible. -/
structure IsReadable (room : Yaml.Room) (t : FileTree) (path : Path) : Prop where
  find_ne : t.find path.names ≠ .error .tooLong
  isLegible : ∀ bytes, t.find path.names = .ok (.file bytes) → IsLegible room bytes

/-- Settings are loaded, or an error is reported. -/
inductive Settles : Except LoadFailure Settings → Prop
  | loaded (s : Settings) : Settles (.ok s)
  | reported (e : LoadError) : Settles (.error (.reported e))

theorem fromUTF8?_eq_some_iff (bytes : ByteArray) (text : String) :
  String.fromUTF8? bytes = some text ↔ text.toUTF8 = bytes
  := by
  constructor
  · intro h
    rw [String.fromUTF8?] at h
    split at h
    · cases h
      rfl
    · cases h
  · rintro rfl
    rw [String.fromUTF8?, String.toUTF8_eq_toByteArray, dif_pos text.isValidUTF8]
    rfl

/-! ### Steps of loading -/

variable (room : Yaml.Room) (path : Path)

theorem settles_mapError_reported (x : Except LoadError Settings) :
  Settles (x.mapError .reported)
  := by
  cases x with
  | ok s => apply Settles.loaded
  | error e => apply Settles.reported

/-- Of the defects of a text only malformation is reported. -/
theorem settles_ofText_iff (text : String) :
  Settles (ofText room path text) ↔ IsReadThrough room text
  := by
  unfold ofText IsReadThrough
  cases Yaml.read room depth text with
  | ok d => simp [settles_mapError_reported]
  | error defect =>
    by_cases h : defect = .malformed
    · subst h
      simp [Settles.reported]
    · simp only [h, Except.error.injEq, forall_eq', iff_false]
      rintro ⟨⟩

theorem settles_ofBytes_iff (bytes : ByteArray) :
  Settles (ofBytes room path bytes) ↔ IsLegible room bytes
  := by
  simp only [ofBytes, IsLegible, ← fromUTF8?_eq_some_iff]
  cases String.fromUTF8? bytes with
  | some text => simp [settles_ofText_iff]
  | none =>
    simp only [reduceCtorEq, false_and, exists_false, iff_false]
    rintro ⟨⟩

/-! ### Loading -/

variable (t : FileTree)

theorem settles_load_iff :
  Settles (load room t path) ↔ IsReadable room t path
  := by
  unfold load
  constructor
  · intro h
    split at h
    · rename_i bytes hfile
      constructor
      · simp [hfile]
      · rintro bytes' hfile'
        cases hfile.symm.trans hfile'
        exact (settles_ofBytes_iff room path bytes).mp h
    · rename_i hdirectory
      exact ⟨by simp [hdirectory], by simp [hdirectory]⟩
    · cases h
    · rename_i e hlong herror
      exact ⟨by simpa [herror] using hlong, by simp [herror]⟩
  · intro h
    split
    · rename_i bytes hfile
      exact (settles_ofBytes_iff room path bytes).mpr (h.isLegible bytes hfile)
    · apply Settles.reported
    · rename_i hlong
      cases h.find_ne hlong
    · apply Settles.loaded

/-- Where the path is readable, settings are loaded or an error is reported, and default settings
stand in for a reported error. Anywhere else the failure to load settings is not reported, and
asking for default settings does not help. -/
theorem load_settles_iff :
  (IsReadable room t path ↔
    (∃ s, load room t path = .ok s ∧ loadOrDefault room t path = .ok (s, false))
    ∨ ∃ e, load room t path = .error (.reported e) ∧ loadOrDefault room t path = .ok ({}, true))
  ∧ (¬ IsReadable room t path ↔
    ∃ f, (∀ e, f ≠ .reported e) ∧ load room t path = .error f
      ∧ loadOrDefault room t path = .error f)
  := by
  rw [← settles_load_iff, loadOrDefault]
  cases load room t path with
  | ok s => simp [Settles.loaded]
  | error f =>
    cases f with
    | reported e => simp [Settles.reported]
    | _ =>
      have h (f : LoadFailure) (hf : ∀ e, f ≠ .reported e) : ¬ Settles (.error f) := by
        rintro ⟨⟩
        exact hf _ rfl
      simp [h]

/-- A tree with a file of one byte, which is no text. -/
def brokenTree : FileTree := ⟨[(["settings.yaml"], .file ⟨#[0xFF]⟩)]⟩

/-- A file that is no text stops the program, also where default settings were asked for. -/
theorem load_of_broken_file :
  load {} brokenTree ⟨.working, ["settings.yaml"]⟩ = .error .undecodable
  ∧ loadOrDefault {} brokenTree ⟨.working, ["settings.yaml"]⟩ = .error .undecodable
  := ⟨rfl, rfl⟩

/-! ### Brackets -/

theorem unifyLines_replicate (n : ℕ) :
  unifyLines (List.replicate n '[') = List.replicate n '['
  := by
  induction n with
  | zero => rfl
  | succ n ih => rw [List.replicate_succ, unifyLines, ih] <;> simp

/-- A file of brackets is not well-formed, which is reported if there is room for as many
collections. If there is not, the file stops the program. -/
theorem load_of_brackets {n : ℕ} (hn : n ≠ 0)
    (hfile : t.find path.names = .ok (.file (Yaml.brackets n).toUTF8)) :
  load room t path
      = .error (if room.collections < n then .unvalued .tooDeep
        else .reported (.unread path .language))
  ∧ loadOrDefault room t path
      = if room.collections < n then .error (.unvalued .tooDeep) else .ok ({}, true)
  := by
  have htext : String.fromUTF8? (Yaml.brackets n).toUTF8 = some (Yaml.brackets n) :=
    (fromUTF8?_eq_some_iff _ _).mpr rfl
  have hlines : String.ofList (unifyLines (Yaml.brackets n).toList) = Yaml.brackets n := by
    rw [Yaml.brackets, String.toList_ofList, unifyLines_replicate]
  have hload : load room t path
      = .error (if room.collections < n then .unvalued .tooDeep
        else .reported (.unread path .language)) := by
    simp only [load, hfile, ofBytes, htext, hlines, ofText, Yaml.read_brackets room depth hn]
    split_ifs <;> rfl
  refine ⟨hload, ?_⟩
  rw [loadOrDefault, hload]
  split_ifs <;> rfl

end Settings

end PodTable
