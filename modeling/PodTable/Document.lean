import PodTable.Number.Shortest
import PodTable.Text.Quoted

/-!
# Documents

A document is a value of the shape of JSON: null, a truth value, a whole or a binary floating
point number, a text, a list, or an object with named entries. The entries of an object are
kept in the order in which they were written. Texts are strings, unless another type is given for
what stands where a text is meant.

`Document.literal` is the text of a document in messages, `Document.kind` the word that names
its kind there, and `Document.plain` the text of a document in a label, where a text stands
without quotes.
-/

namespace PodTable

/-- A value of the shape of JSON, with texts of type `τ`. -/
inductive Document (τ : Type := String) where
  | null
  | bool (value : Bool)
  | int (value : Int)
  | float (value : Binary64)
  | text (value : τ)
  | list (items : List (Document τ))
  | object (entries : List (String × Document τ))

instance {τ : Type} : Inhabited (Document τ) := ⟨.null⟩

/-- The entries of an object. -/
abbrev Entries (τ : Type := String) := List (String × Document τ)

namespace Document

/-- The word for the kind of a document. -/
def kind : Document → String
  | null => "NoneType"
  | bool _ => "bool"
  | int _ => "int"
  | float _ => "float"
  | text _ => "str"
  | list _ => "list"
  | object _ => "dict"

/-- The texts `ts` with a comma and a space between any two. -/
def commaSeparated (ts : List String) : String := ", ".intercalate ts

mutual

/-- The text of a document in a message. -/
def literal : Document → String
  | null => "None"
  | bool b => if b then "True" else "False"
  | int i => Text.numeral i
  | float x => x.text
  | text s => Text.quote s
  | list items => "[" ++ commaSeparated (literalItems items) ++ "]"
  | object entries => "\x7b" ++ commaSeparated (literalEntries entries) ++ "\x7d"

/-- The texts of the items of a list. -/
def literalItems : List Document → List String
  | [] => []
  | d :: ds => literal d :: literalItems ds

/-- The texts of the entries of an object. -/
def literalEntries : List (String × Document) → List String
  | [] => []
  | (k, d) :: es => (Text.quote k ++ ": " ++ literal d) :: literalEntries es

end

/-- The text of a document in a label. -/
def plain : Document → String
  | text s => s
  | d => d.literal

/-- Whether a document is null, false, zero or empty. Such a document stands for a missing one
where a default is at hand. -/
def isVacuous : Document → Bool
  | null => true
  | bool b => !b
  | int i => i == 0
  | float x => x.isZero
  | text s => s.isEmpty
  | list items => items.isEmpty
  | object entries => entries.isEmpty

variable {τ : Type}

/-- The entry of an object under a key. -/
def lookup? (entries : Entries τ) (key : String) : Option (Document τ) := entries.lookup key

/-- The entry of an object under a key, or a default if it is missing or vacuous. -/
def lookupOr (entries : Entries) (key : String) (default : Document) : Document :=
  match lookup? entries key with
  | some d => if d.isVacuous then default else d
  | none => default

/-- The entries `es` with the value `d` under the key `k`. A key keeps the place where it was
written first. -/
def insert (es : Entries τ) (k : String) (d : Document τ) : Entries τ :=
  match es with
  | [] => [(k, d)]
  | (k', d') :: es => if k' = k then (k, d) :: es else (k', d') :: insert es k d

/-- The entries written in a list, the last of equal keys counting. -/
def ofEntries (es : Entries τ) : Entries τ := es.foldl (fun fs e => insert fs e.1 e.2) []

end Document

end PodTable
