import Mathlib.Data.List.Basic
import PodTable.Proofs.Checked.Faults
import PodTable.Proofs.Outcome
import PodTable.Proofs.Settings.Loading
import PodTable.Proofs.Settings.Record

/-!
# Settings from a mapping

Settings are kept under nine keys: one for the wide columns, one for the palette, and one in the
palette for each category. A file that holds a mapping is loaded when the value at each of these keys
that is there is accepted, and what is not there has its default. Where some value is not accepted,
nothing of the file is kept, and the error tells the way to each such value. Nothing else in the
mapping matters. `Settings.load_of_mapping` says so of every such file.
-/

namespace PodTable

namespace Settings

/-! ### Keys -/

/-- The keys under which settings are kept. -/
inductive Key where
  | wide
  | palette
  | color (c : Category)
deriving DecidableEq, Repr

namespace Key

/-- All keys, in the order in which they are read. -/
def all : List Key := wide :: palette :: Category.all.map color

/-- The way to the value at a key. -/
def path : Key → List Step
  | wide => [.name "show_wide_columns"]
  | palette => [.name "palette"]
  | color c => [.name "palette", .name c.name]

/-- A document without the entries in it. -/
def hollow : Document Text.Wording → Document Text.Wording
  | .object _ => .object []
  | d => d

/-- The value at a key in a mapping, if there is one. What is in a palette is left to the keys of the
categories. -/
def value? (es : Entries Text.Wording) : Key → Option (Document Text.Wording)
  | wide => Document.lookup? es "show_wide_columns"
  | palette => (Document.lookup? es "palette").map hollow
  | color c =>
    match Document.lookup? es "palette" with
    | some (.object fs) => Document.lookup? fs c.name
    | _ => none

/-- Whether a value is accepted at a key: a truth value, an object, or a text that denotes a color. -/
def accepts : Key → Document Text.Wording → Bool
  | wide, d => (wideColumns d).value?.isSome
  | palette, .object _ => true
  | palette, _ => false
  | color _, .text (.proper s) => (Color.ofText s).toOption.isSome
  | color _, _ => false

/-- Whether there is a value at a key that is not accepted. -/
def isInvalid (es : Entries Text.Wording) (k : Key) : Bool :=
  (k.value? es).any (fun d => !k.accepts d)

/-- The keys with a value that is not accepted. -/
def invalid (es : Entries Text.Wording) : List Key := all.filter (isInvalid es)

theorem mem_all (k : Key) :
  k ∈ all
  := by
  rcases k with _ | _ | c
  · decide
  · decide
  · cases c <;> decide

theorem invalid_eq_nil_iff {es : Entries Text.Wording} :
  invalid es = [] ↔ ∀ (k : Key) d, k.value? es = some d → k.accepts d = true
  := by
  simp only [invalid, List.filter_eq_nil_iff, mem_all, true_implies, isInvalid, Bool.not_eq_true,
    Option.any_eq_false, Bool.not_eq_eq_eq_not, Bool.not_false]

end Key

/-! ### Faults -/

open Checked

variable {es es' : Entries Text.Wording}

theorem isWhole_wideColumns (d : Document Text.Wording) :
  (wideColumns d).IsWhole
  := isWhole_flagBy isWhole_flagOfWording d

theorem isWhole_colorText (d : Document Text.Wording) :
  (Palette.colorText d).IsWhole
  := by
  cases d with
  | text w =>
    unfold Palette.colorText Palette.colorOfWording
    dsimp only
    split
    · split
      · apply IsWhole.sound
      · apply IsWhole.fault
    · apply IsWhole.fault
    · apply IsWhole.fault
  | _ => apply IsWhole.fault

theorem Key.accepts_color (c : Category) (d : Document Text.Wording) :
  (color c).accepts d = (Palette.colorText d).value?.isSome
  := by
  cases d with
  | text w =>
    cases w with
    | proper s =>
      rw [accepts, Palette.colorText, Palette.colorOfWording]
      cases Color.ofText s <;> rfl
    | broken ns => rfl
    | bytes => rfl
  | _ => rfl

/-- The text of a category is at fault when there is one that is not accepted. -/
theorem paths_entry (c : Category) (fs : Entries Text.Wording) :
  (Palette.entry c fs).paths
    = if (Document.lookup? fs c.name).any (fun d => !(Key.color c).accepts d) then [[.name c.name]]
      else []
  := by
  rw [Palette.entry, paths_defaulted]
  cases Document.lookup? fs c.name with
  | none => rfl
  | some d =>
    rw [Option.any_some, Key.accepts_color, Option.elim_some, (isWhole_colorText d).paths_eq]
    cases (Palette.colorText d).value?.isSome <;> rfl

theorem paths_ofFields_palette (fs : Entries Text.Wording) :
  (Palette.ofFields fs).paths = Category.all.flatMap (fun c => (Palette.entry c fs).paths)
  := by
  simp [Palette.ofFields, Category.all]

theorem map_path_filter (p : Key → Bool) (ks : List Key) :
  (ks.filter p).map Key.path = ks.flatMap (fun k => if p k then [k.path] else [])
  := by
  induction ks with
  | nil => rfl
  | cons k ks ih =>
    rw [List.flatMap_cons, ← ih]
    cases h : p k <;> simp [h]

/-- The faults of a palette are at its keys. -/
theorem paths_palette :
  (defaulted "palette" {} Palette.check es).paths
    = (if Key.isInvalid es .palette then [Key.palette.path] else [])
      ++ Category.all.flatMap (fun c => if Key.isInvalid es (.color c) then [(Key.color c).path] else [])
  := by
  rw [paths_defaulted]
  -- Either the palette is no object and is at fault itself, or its entries are, one by one.
  cases hlookup : Document.lookup? es "palette" with
  | none => simp [Key.isInvalid, Key.value?, hlookup]
  | some d =>
    cases d with
    | object fs =>
      have hvalid : Key.isInvalid es .palette = false := by
        simp [Key.isInvalid, Key.value?, hlookup, Key.hollow, Key.accepts]
      rw [hvalid, Option.elim_some, Palette.check, record, paths_ofFields_palette, List.map_flatMap,
        if_neg Bool.false_ne_true, List.nil_append]
      apply List.flatMap_congr
      intro c _
      rw [paths_entry, Key.isInvalid, Key.value?, hlookup]
      split_ifs <;> rfl
    | _ => simp [Key.isInvalid, Key.value?, hlookup, Key.hollow, Key.accepts, Palette.check, record,
        Key.path]

/-- The faults of settings are at the keys with a value that is not accepted. -/
theorem paths_ofFields (es : Entries Text.Wording) :
  (ofFields es).paths = (Key.invalid es).map Key.path
  := by
  have hwide : (defaulted "show_wide_columns" false wideColumns es).paths
      = if Key.isInvalid es .wide then [Key.wide.path] else [] := by
    rw [paths_defaulted, Key.isInvalid, Key.value?]
    cases Document.lookup? es "show_wide_columns" with
    | none => rfl
    | some d =>
      rw [Option.elim_some, Option.any_some, Key.accepts, (isWhole_wideColumns d).paths_eq]
      cases (wideColumns d).value?.isSome <;> rfl
  rw [Key.invalid, map_path_filter, Key.all, List.flatMap_cons, List.flatMap_cons, List.flatMap_map,
    ofFields, paths_seq, paths_map, hwide, paths_palette]

/-! ### Values -/

/-- Settings have what a mapping holds, and a default for what it does not hold. -/
structure Holds (es : Entries Text.Wording) (s : Settings) : Prop where
  wide : (∃ d, Key.wide.value? es = some d ∧ wideColumns d = .sound s.showWideColumns)
    ∨ (Key.wide.value? es = none ∧ s.showWideColumns = ({} : Settings).showWideColumns)
  color : ∀ c, (Key.color c).value? es = some (.text (.proper (s.palette.colorFor c)))
    ∨ ((Key.color c).value? es = none
      ∧ s.palette.colorFor c = ({} : Settings).palette.colorFor c)

theorem holds_of_ofFields {s : Settings} (h : ofFields es = .sound s) :
  Holds es s
  := by
  obtain ⟨hwide, hpalette⟩ := ofFields_eq_sound_iff.mp h
  constructor
  · exact (defaulted_eq_sound_iff.mp hwide).imp_right (And.imp_right Eq.symm)
  · intro c
    obtain ⟨d, hlookup, hread⟩ | ⟨hlookup, hdefault⟩ := defaulted_eq_sound_iff.mp hpalette
    · obtain ⟨fs, rfl, hfields⟩ := record_eq_sound_iff.mp hread
      have hvalue : (Key.color c).value? es = Document.lookup? fs c.name := by
        rw [Key.value?, hlookup]
      obtain ⟨htext, -⟩ | ⟨hnone, hdefault⟩ :=
        Palette.entry_eq_sound_iff.mp (Palette.ofFields_eq_sound_iff.mp hfields c)
      · exact .inl (hvalue.trans htext)
      · exact .inr ⟨hvalue.trans hnone, hdefault.symm⟩
    · right
      constructor
      · rw [Key.value?, hlookup]
      · rw [← hdefault]

theorem isDefinite_palette (d : Document Text.Wording) :
  (Palette.check d).IsDefinite
  := by
  apply isDefinite_record
  intro fs
  have hentry (c : Category) : (Palette.entry c fs).IsDefinite :=
    isDefinite_defaulted (fun d => (isWhole_colorText d).isDefinite) _ _ _
  exact (((((((hentry .pending).map _).seq (hentry .creating)).seq (hentry .highlight)).seq
    (hentry .completed)).seq (hentry .standard)).seq (hentry .error)).seq (hentry .kill)

theorem isDefinite_ofFields (es : Entries Text.Wording) :
  (ofFields es).IsDefinite
  := ((isDefinite_defaulted (fun d => (isWhole_wideColumns d).isDefinite) _ _ _).map _).seq
    (isDefinite_defaulted isDefinite_palette _ _ _)

/-- Settings are read when every value is accepted. -/
theorem exists_ofFields_eq_sound_iff :
  (∃ s, ofFields es = .sound s) ↔ Key.invalid es = []
  := by
  have hpaths : (ofFields es).faults = [] ↔ Key.invalid es = [] := by
    rw [← List.map_eq_nil_iff (f := Key.path), ← paths_ofFields, paths, List.map_eq_nil_iff]
  rw [← hpaths]
  constructor
  · rintro ⟨s, hs⟩
    rw [hs, faults_sound]
  · exact isDefinite_ofFields es

theorem Key.hollow_eq_hollow_iff {d d' : Document Text.Wording} :
  hollow d' = hollow d ↔ d' = d ∨ ∃ fs fs', d = .object fs ∧ d' = .object fs'
  := by
  cases d <;> cases d' <;> simp [hollow]

theorem ofFields_palette_congr {fs fs' : Entries Text.Wording}
    (h : ∀ c : Category, Document.lookup? fs' c.name = Document.lookup? fs c.name) :
  Palette.ofFields fs' = Palette.ofFields fs
  := by
  have hentry (c : Category) : Palette.entry c fs' = Palette.entry c fs := defaulted_congr (h c)
  simp only [Palette.ofFields, hentry]

/-- What is at no key does not matter. -/
theorem ofFields_congr (h : ∀ k : Key, k.value? es' = k.value? es) :
  ofFields es' = ofFields es
  := by
  have hpalette : defaulted "palette" {} Palette.check es'
      = defaulted "palette" {} Palette.check es := by
    have hcolor (c : Category) := h (.color c)
    have hhollow := h .palette
    simp only [Key.value?] at hcolor hhollow
    unfold defaulted
    cases hlookup : Document.lookup? es "palette" with
    | none =>
      rw [hlookup, Option.map_none, Option.map_eq_none_iff] at hhollow
      rw [hhollow]
    | some d =>
      rw [hlookup, Option.map_some, Option.map_eq_some_iff] at hhollow
      obtain ⟨d', hlookup', hd⟩ := hhollow
      rw [hlookup']
      -- Two objects may differ, but not under the name of a category.
      obtain rfl | ⟨fs, fs', rfl, rfl⟩ := Key.hollow_eq_hollow_iff.mp hd
      · rfl
      · simp only [hlookup, hlookup'] at hcolor
        simp only [Palette.check, record, ofFields_palette_congr hcolor]
  rw [ofFields, ofFields, hpalette, defaulted_congr (h .wide)]

/-! ### Loading -/

/-- A file that can be read as a text holds a mapping. -/
def HoldsMapping (room : Yaml.Room) (t : FileTree) (path : Path) (es : Entries Text.Wording) :
    Prop :=
  ∃ text : String, t.find path.names = .ok (.file text.toUTF8)
    ∧ Yaml.read room depth (String.ofList (unifyLines text.toList)) = .ok (.object es)

variable {room : Yaml.Room} {t t' : FileTree} {path : Path}

theorem load_eq_of_mapping (h : HoldsMapping room t path es) :
  load room t path = (ofDocument path (.object es)).mapError .reported
  := by
  obtain ⟨text, hfile, hread⟩ := h
  rw [load, hfile]
  simp only [ofBytes, (fromUTF8?_eq_some_iff _ _).mpr rfl, ofText, hread]

/-- Settings are loaded from a mapping, or the ways to all its values that are not accepted are
reported. -/
theorem load_cases_of_mapping (h : HoldsMapping room t path es) :
  (Key.invalid es = [] ∧ ∃ s, load room t path = .ok s ∧ Holds es s)
  ∨ (Key.invalid es ≠ [] ∧ ∃ faults, load room t path = .error (.reported (.invalid path faults))
      ∧ faults.map Fault.path = (Key.invalid es).map Key.path)
  := by
  rw [load_eq_of_mapping h, ofDocument, ← paths_ofFields, ne_eq, ← exists_ofFields_eq_sound_iff]
  cases hfields : ofFields es with
  | sound s => exact .inl ⟨⟨s, rfl⟩, s, rfl, holds_of_ofFields hfields⟩
  | faulty faults => exact .inr ⟨by simp, faults, rfl, rfl⟩

/-- Settings are loaded from a file with a mapping exactly when the value at each key is accepted, and
then they have this value, or the default where there is none. Otherwise the error tells the way to each
value that is not accepted, in order, and default settings stand in for the whole file. What else is in
the mapping does not matter. -/
theorem load_of_mapping (h : HoldsMapping room t path es) :
  ((∃ s, load room t path = .ok s) ↔ ∀ (k : Key) d, k.value? es = some d → k.accepts d = true)
  ∧ (∀ s, load room t path = .ok s → Holds es s ∧ loadOrDefault room t path = .ok (s, false))
  ∧ ((∃ (k : Key) (d : Document Text.Wording), k.value? es = some d ∧ k.accepts d = false) →
      ∃ faults, load room t path = .error (.reported (.invalid path faults))
        ∧ faults.map Fault.path = (Key.invalid es).map Key.path
        ∧ loadOrDefault room t path = .ok ({}, true))
  ∧ ∀ t' es', HoldsMapping room t' path es' → (∀ k : Key, k.value? es' = k.value? es) →
      load room t' path = load room t path
  := by
  have hother (t' : FileTree) (es' : Entries Text.Wording) (h' : HoldsMapping room t' path es')
      (hvalue : ∀ k : Key, k.value? es' = k.value? es) : load room t' path = load room t path := by
    rw [load_eq_of_mapping h, load_eq_of_mapping h', ofDocument, ofDocument, ofFields_congr hvalue]
  rw [← Key.invalid_eq_nil_iff]
  obtain ⟨hvalid, s, hload, hholds⟩ | ⟨hinvalid, faults, hload, hpaths⟩ := load_cases_of_mapping h
  · refine ⟨by simp [hload, hvalid], ?_, ?_, hother⟩
    · intro s' hs'
      cases hload.symm.trans hs'
      exact ⟨hholds, by simp [loadOrDefault, hload]⟩
    · rintro ⟨k, d, hd, haccepts⟩
      cases haccepts.symm.trans (Key.invalid_eq_nil_iff.mp hvalid k d hd)
  · refine ⟨by simp [hload, hinvalid], by simp [hload], ?_, hother⟩
    rintro -
    exact ⟨faults, hload, hpaths, by simp [loadOrDefault, hload]⟩

/-- A file with a word for the wide columns, a color text in capitals between blanks, a text that denotes
no color, and keys that are not known. -/
def mixedText : String :=
  "show_wide_columns: 'On'\npalette:\n  error: ' RED '\n  kill: bleu\n  note: none\nnote: none\n"

/-- The nodes of the text. -/
def mixedNodes : Array Yaml.Node :=
  let leaf (s : String) : Yaml.Node := ⟨.text, .scalar (.ofString s)⟩
  #[ ⟨.mapping, .mapping [(1, 2), (3, 4), (11, 12)]⟩, leaf "show_wide_columns", leaf "On",
    leaf "palette", ⟨.mapping, .mapping [(5, 6), (7, 8), (9, 10)]⟩, leaf "error", leaf " RED ",
    leaf "kill", leaf "bleu", leaf "note", leaf "none", leaf "note", leaf "none" ]

/-- The mapping in the file. -/
def mixedEntries : Entries Text.Wording :=
  let text (s : String) : Document Text.Wording := .text (.proper s)
  [("show_wide_columns", text "On"),
    ("palette", .object [("error", text " RED "), ("kill", text "bleu"), ("note", text "none")]),
    ("note", text "none")]

/-- A tree with this file only. -/
def mixedTree : FileTree := ⟨[(["settings.yaml"], .file mixedText.toUTF8)]⟩

/-- The path of the file. -/
def mixedPath : Path := ⟨.working, ["settings.yaml"]⟩

theorem holdsMapping_mixed :
  HoldsMapping {} mixedTree mixedPath mixedEntries
  := by
  have hlines : String.ofList (unifyLines mixedText.toList) = mixedText := by decide +kernel
  have hnodes : (Yaml.node {} mixedText).toOption.map (fun r => (r.1, r.2.nodes))
      = some (0, mixedNodes) := by
    decide +kernel
  obtain ⟨⟨i, ⟨nodes⟩⟩, hnode, heq⟩ := Option.map_eq_some_iff.mp hnodes
  cases heq
  refine ⟨mixedText, rfl, ?_⟩
  rw [hlines, Yaml.read, Outcome.toOption_eq_some_iff.mp hnode]
  rfl

/-- One color text is told of, and the other one and the word are not kept. -/
theorem load_of_mixed :
  HoldsMapping {} mixedTree mixedPath mixedEntries
  ∧ ∃ faults, load {} mixedTree mixedPath = .error (.reported (.invalid mixedPath faults))
    ∧ faults.map Fault.path = [[.name "palette", .name "kill"]]
    ∧ loadOrDefault {} mixedTree mixedPath = .ok ({}, true)
  := by
  obtain ⟨faults, hload, hpaths, hdefault⟩ := (load_of_mapping holdsMapping_mixed).2.2.1
    ⟨.color .kill, .text (.proper "bleu"), rfl, by decide +kernel⟩
  have hkeys : Key.invalid mixedEntries = [.color .kill] := by decide +kernel
  refine ⟨holdsMapping_mixed, faults, hload, hpaths.trans ?_, hdefault⟩
  rw [hkeys]
  rfl

end Settings

end PodTable
