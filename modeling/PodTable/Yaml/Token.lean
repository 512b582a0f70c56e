import PodTable.Yaml.Defect

/-!
# Tokens

A text is a list of tokens. Blocks that are marked by their indentation have tokens for their
starts and ends, and an entry of a mapping has a token for its key even where no indicator is
written. Where a text cannot be read on, a last token says why.
-/

namespace PodTable

namespace Yaml

/-- A token of a text. -/
inductive Token where
  | version (major : Nat)
  | shorthand (handle : String) (meaning : String)
  | directive
  | documentStart
  | documentEnd
  | streamEnd
  | blockSequenceStart
  | blockMappingStart
  | blockEnd
  | flowSequenceStart
  | flowSequenceEnd
  | flowMappingStart
  | flowMappingEnd
  | blockEntry
  | flowEntry
  | key
  | value
  | anchor (name : String)
  | reference (name : String)
  | tag (handle : Option String) (suffix : String)
  | scalar (plain : Bool) (text : Text.Codes)
  | broken (defect : Defect)
deriving DecidableEq, Repr

end Yaml

end PodTable
