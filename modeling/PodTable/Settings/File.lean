import PodTable.Files.Path
import PodTable.Files.Tree
import PodTable.Settings.Basic
import PodTable.Yaml.Reading
import PodTable.Yaml.Writer

/-!
# Settings files

Settings are kept in a file of YAML, a mapping of the record of settings. Loading gives default
settings where no file is, and reports a file that cannot be read, is not well-formed, does not
hold a mapping, or does not hold settings. `Settings.loadOrDefault` gives default settings in all
these cases.

What is not reported stops both: a name in the path that is too long, bytes that are no text, a
scalar that has the form or the tag of a value without having one, and a text that is deeper than
the interpreter has room for. Saving is stopped by a name that holds the null character, at which
no file can be.

A path from the working directory is taken from the root.
-/

namespace PodTable

namespace Settings

/-! ### Reading -/

/-- Why a settings file cannot be read. -/
inductive ReadCause where
  | files
  | language
deriving DecidableEq, Repr

/-- Why settings cannot be loaded. -/
inductive LoadError where
  | unread (path : Path) (cause : ReadCause)
  | notMapping (path : Path)
  | invalid (path : Path) (faults : List Fault)
deriving DecidableEq, Repr

/-- Why there are no settings: an error that is reported, or what stops the program. -/
inductive LoadFailure where
  | reported (error : LoadError)
  | overlongName (path : Path)
  | undecodable
  | unvalued (defect : Yaml.Defect)
deriving DecidableEq, Repr

namespace LoadError

/-- The message for an error, up to where what caused it is described. -/
def message : LoadError → String
  | unread path _ => "Cannot read settings from " ++ path.text
  | notMapping path => "Settings in " ++ path.text ++ " must be a mapping"
  | invalid path _ => "Invalid settings in " ++ path.text ++ ": "

end LoadError

/-- The settings in a document. Null stands for default settings. -/
def ofDocument (path : Path) : Document Text.Wording → Except LoadError Settings
  | .null => .ok {}
  | .object es =>
    match ofFields es with
    | .sound s => .ok s
    | .faulty faults => .error (.invalid path faults)
  | _ => .error (.notMapping path)

/-- The number of collections around a value that a setting may be. -/
def depth : Nat := 2

variable (room : Yaml.Room)

/-- The settings in a text. -/
def ofText (path : Path) (text : String) : Except LoadFailure Settings :=
  match Yaml.read room depth text with
  | .ok d => (ofDocument path d).mapError .reported
  | .error .malformed => .error (.reported (.unread path .language))
  | .error defect => .error (.unvalued defect)

/-- A text in which every line ends with a line feed alone. -/
def unifyLines : List Char → List Char
  | '\r' :: '\n' :: cs => '\n' :: unifyLines cs
  | '\r' :: cs => '\n' :: unifyLines cs
  | c :: cs => c :: unifyLines cs
  | [] => []

/-- The settings in the bytes of a file. -/
def ofBytes (path : Path) (bytes : ByteArray) : Except LoadFailure Settings :=
  match String.fromUTF8? bytes with
  | some text => ofText room path (String.ofList (unifyLines text.toList))
  | none => .error .undecodable

/-- Load settings from a path. -/
def load (t : FileTree) (path : Path) : Except LoadFailure Settings :=
  match t.find path.names with
  | .ok (.file bytes) => ofBytes room path bytes
  | .ok .directory => .error (.reported (.unread path .files))
  | .error .tooLong => .error (.overlongName path)
  | .error _ => .ok {}

/-- Load settings from a path, or give default settings if an error is reported. The truth value
says whether there was one. -/
def loadOrDefault (t : FileTree) (path : Path) : Except LoadFailure (Settings × Bool) :=
  match load room t path with
  | .ok s => .ok (s, false)
  | .error (.reported _) => .ok ({}, true)
  | .error failure => .error failure

/-! ### Writing -/

/-- The line for an entry of a palette. -/
def entryLine (name text : String) : List Char :=
  let start := ' ' :: ' ' :: name.toList ++ [':']
  start ++ Yaml.writeText 4 start.length text.toList ++ ['\n']

/-- The text in which settings are kept. -/
def text (s : Settings) : String :=
  let wide := if s.showWideColumns then "true" else "false"
  "show_wide_columns: " ++ wide ++ "\npalette:\n"
    ++ String.ofList (Category.all.flatMap (fun c => entryLine c.name (s.palette.colorFor c)))

/-- The path to which settings cannot be saved. -/
structure SaveError where
  path : Path
deriving DecidableEq, Repr

/-- Why settings are not saved: an error that is reported, or what stops the program. -/
inductive SaveFailure where
  | reported (error : SaveError)
  | nullCharacter
deriving DecidableEq, Repr

namespace SaveError

/-- The message for an error. -/
def message (e : SaveError) : String := "Cannot write settings to " ++ e.path.text

end SaveError

namespace SaveFailure

/-- The failure to save settings to a path when there is trouble in the tree. -/
def ofTrouble (path : Path) : FileTrouble → SaveFailure
  | .nullCharacter => nullCharacter
  | _ => reported ⟨path⟩

end SaveFailure

/-- Save settings to a path, and make the directories on the way to it. Directories that are
made before a failure stay. -/
def save (t : FileTree) (path : Path) (s : Settings) : FileTree × Except SaveFailure Path :=
  match t.makeDirectories (path.names.reverse.drop 1) with
  | (t, some f) => (t, .error (.ofTrouble path f.trouble))
  | (t, none) =>
    match t.writeFile path.names s.text.toUTF8 with
    | .ok t => (t, .ok path)
    | .error e => (t, .error (.ofTrouble path e))

/-! ### The path -/

/-- The path of the settings where none is given. -/
def defaultPath : String := "~/.config/kubeglance/settings.yaml"

/-- The path of the settings: the one given in the environment, unless that is empty, or the
default one. A tilde stands for the home directory. -/
def path? (home : String) (given : Option String) : Option Path :=
  let text := match given with
    | some s => if s.isEmpty then defaultPath else s
    | none => defaultPath
  (Path.ofText text).expandHome? home

end Settings

end PodTable
