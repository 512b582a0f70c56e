import PodTable.Proofs.Files.Growth
import PodTable.Proofs.Settings.Loading
import PodTable.Proofs.Settings.Record
import PodTable.Proofs.Yaml.Written

/-!
# Saving settings

The text in which settings are kept has no line ends but line feeds, so it is read from its bytes
as it was written. If it denotes the record of the settings, as a text of this form is meant to,
then valid settings are loaded as they were saved.

Saving writes one file, and makes directories where nothing was. A save that fails may have made
directories too.
-/

namespace PodTable

namespace Settings

/-! ### The text -/

/-- The text in which the settings are kept holds their record. -/
def IsReadBack (room : Yaml.Room) (s : Settings) : Prop :=
  Yaml.read room depth s.text = .ok s.encode

variable {s : Settings}

theorem all_isDirect_entryLine (c : Category) (text : String) :
  (entryLine c.name text).all Yaml.isDirect = true
  := by
  have hspace : Yaml.isDirect ' ' = true := by decide
  have hcolon : Yaml.isDirect ':' = true := by decide
  have hfeed : Yaml.isDirect '\n' = true := by decide
  have hname : c.name.toList.all Yaml.isDirect = true := by
    cases c <;> decide
  simp only [entryLine, List.cons_append, List.all_cons, List.all_append, List.all_nil, hspace,
    hcolon, hfeed, hname, Yaml.all_isDirect_writeText, Bool.and_self]

theorem all_isDirect_text (s : Settings) :
  s.text.toList.all Yaml.isDirect = true
  := by
  have hwide : "show_wide_columns: ".toList.all Yaml.isDirect = true := by decide
  have hflag : (if s.showWideColumns then "true" else "false").toList.all Yaml.isDirect = true := by
    split <;> decide
  have hpalette : "\npalette:\n".toList.all Yaml.isDirect = true := by decide
  have hentries : (Category.all.flatMap
      (fun c => entryLine c.name (s.palette.colorFor c))).all Yaml.isDirect = true := by
    rw [List.all_flatMap, List.all_eq_true]
    exact fun c _ => all_isDirect_entryLine c _
  unfold text
  simp only [String.toList_append, String.toList_ofList, List.all_append, hwide, hflag, hpalette,
    hentries, Bool.and_self]

/-- A text without carriage returns has its lines end with line feeds. -/
theorem unifyLines_eq_self {cs : List Char} (h : '\r' ∉ cs) :
  unifyLines cs = cs
  := by
  fun_induction unifyLines cs with
  | case1 cs ih => simp at h
  | case2 cs hne ih => simp at h
  | case3 c cs hne hne' ih => rw [ih (List.not_mem_of_not_mem_cons h)]
  | case4 => rfl

theorem unifyLines_text (s : Settings) :
  unifyLines s.text.toList = s.text.toList
  := by
  apply unifyLines_eq_self
  intro h
  have hdirect := List.all_eq_true.mp (all_isDirect_text s) _ h
  exact absurd hdirect (by decide)

variable (room : Yaml.Room) (path : Path)

/-- The bytes of the text are read as the text. -/
theorem ofBytes_text (s : Settings) :
  ofBytes room path s.text.toUTF8 = ofText room path s.text
  := by
  rw [ofBytes, (fromUTF8?_eq_some_iff s.text.toUTF8 s.text).mpr rfl]
  dsimp only
  rw [unifyLines_text, String.ofList_toList]

theorem ofDocument_encode (h : s.IsValid) :
  ofDocument path s.encode = .ok s
  := by
  have hfields : ofFields _ = .sound s := check_encode (isValid_iff.mp h)
  rw [encode, ofDocument, hfields]

theorem ofBytes_text_eq_ok (hvalid : s.IsValid) (hread : s.IsReadBack room) :
  ofBytes room path s.text.toUTF8 = .ok s
  := by
  rw [ofBytes_text, ofText, hread]
  dsimp only
  rw [ofDocument_encode path hvalid]
  rfl

/-! ### Loaded settings -/

theorem isValid_of_ofDocument {d : Document Text.Wording} (h : ofDocument path d = .ok s) :
  s.IsValid
  := by
  unfold ofDocument at h
  split at h
  · cases h
    exact isValid_iff.mpr Palette.isValid_default
  · rename_i es
    split at h
    · rename_i hfields
      cases h
      exact ⟨.object es, hfields⟩
    · cases h
  · cases h

theorem isValid_of_ofText {text : String} (h : ofText room path text = .ok s) :
  s.IsValid
  := by
  unfold ofText at h
  split at h
  · exact isValid_of_ofDocument path (Outcome.mapError_eq_ok_iff.mp h)
  · cases h
  · cases h

/-- Settings that are loaded are valid. -/
theorem isValid_of_load {t : FileTree} (h : load room t path = .ok s) :
  s.IsValid
  := by
  unfold load at h
  split at h
  · unfold ofBytes at h
    split at h
    · exact isValid_of_ofText room path h
    · cases h
  · cases h
  · cases h
  · cases h
    exact isValid_iff.mpr Palette.isValid_default

/-! ### The tree -/

variable {room path}
variable {t t' : FileTree}

/-- Where a path leads to a file with the text of settings, these settings are loaded. -/
theorem load_eq_ok {p : Place} (hp : t.resolve path.names = .ok p)
    (hfile : t.occupant? p = some (.file s.text.toUTF8)) (hvalid : s.IsValid)
    (hread : s.IsReadBack room) :
  load room t path = .ok s
  := by
  have hfind : t.find path.names = .ok (.file s.text.toUTF8) := by
    rw [FileTree.find, Outcome.bind_eq_ok_iff]
    exact ⟨p, hp, by rw [hfile]⟩
  rw [load, hfind]
  exact ofBytes_text_eq_ok room path hvalid hread

/-- The tree with the directories on the way to a file, as far as they can be made. -/
def withParents (t : FileTree) (path : Path) : FileTree :=
  (t.makeDirectories (path.names.reverse.drop 1)).1

/-- A save makes the directories on the way, and then writes one file or fails. -/
theorem save_cases (t : FileTree) (path : Path) (s : Settings) :
  (∃ f, save t path s = (withParents t path, .error f))
  ∨ ∃ p, (withParents t path).resolve path.names = .ok p
    ∧ (withParents t path).occupant? p ≠ some .directory
    ∧ save t path s = ((withParents t path).put p (.file s.text.toUTF8), .ok path)
  := by
  unfold save withParents
  cases t.makeDirectories (path.names.reverse.drop 1) with
  | mk t₁ failure =>
    cases failure with
    | some f => exact .inl ⟨_, rfl⟩
    | none =>
      cases hwritten : t₁.writeFile path.names s.text.toUTF8 with
      | error e => exact .inl ⟨.ofTrouble path e, by simp only [hwritten]⟩
      | ok t₂ =>
        obtain ⟨p, hp, hdir, rfl⟩ := FileTree.writeFile_eq_ok_iff.mp hwritten
        exact .inr ⟨p, hp, hdir, by simp only [hwritten]⟩

theorem grows_withParents (t : FileTree) (path : Path) :
  FileTree.Grows [] t (withParents t path)
  := FileTree.grows_makeDirectories t _

/-- A save that returns has written the text of the settings to the file that the path leads to,
and nothing to any other file. -/
theorem save_eq_ok {path' : Path} (h : save t path s = (t', .ok path')) :
  ∃ p, t'.resolve path.names = .ok p
    ∧ t'.occupant? p = some (.file s.text.toUTF8)
    ∧ FileTree.Grows [p] t t'
  := by
  obtain ⟨f, hsave⟩ | ⟨p, hp, hdir, hsave⟩ := save_cases t path s
  · cases hsave.symm.trans h
  · cases hsave.symm.trans h
    have hgrows := FileTree.grows_put_file hdir s.text.toUTF8
    use p, hgrows.resolve_eq_ok hp, FileTree.occupant?_put_self hdir _
    exact (grows_withParents t path).trans hgrows

/-- A save that fails has written no file. -/
theorem save_eq_error {f : SaveFailure} (h : save t path s = (t', .error f)) :
  FileTree.Grows [] t t'
  := by
  obtain ⟨f', hsave⟩ | ⟨p, -, -, hsave⟩ := save_cases t path s
  · cases hsave.symm.trans h
    exact grows_withParents t path
  · cases hsave.symm.trans h

theorem isRooted_save (ht : t.IsRooted) (path : Path) (s : Settings) :
  (save t path s).1.IsRooted
  := by
  have hparents : (withParents t path).IsRooted := ht.makeDirectories _
  obtain ⟨f, hsave⟩ | ⟨p, hp, hdir, hsave⟩ := save_cases t path s
  · rw [hsave]
    exact hparents
  · rw [hsave]
    exact hparents.put hdir (hparents.resolve hp) _

end Settings

end PodTable
