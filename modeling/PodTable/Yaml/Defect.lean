import PodTable.Number.Literal

/-!
# Defects

Why a text has no value. A text that is not well-formed, or that uses what this language leaves
out, is malformed. An escape may also stand for no character, and a scalar may have the form or
the tag of a number, a truth value or a date without being one.

A text is read by calls within calls: for a collection in another one, for a mapping that is merged
into one that is merged itself, and for a mapping that stands for a scalar. The interpreter has room
for so many of them only, so that a well-formed text may be too deep.
-/

namespace PodTable

namespace Yaml

/-- Why a text has no value. -/
inductive Defect where
  | malformed
  | noNumber (fault : Literal.Fault)
  | noDate (reason : String)
  | noCharacter
  | oversizedCode
  | oversizedPower
  | noDigits
  | noFlag (text : Text.Codes)
  | noMoment
  | structuredMoment
  | tooDeep
deriving DecidableEq, Repr

/-- How many calls there is room for within one another: for collections, for mappings that are
merged, and for mappings that stand for scalars. The defaults are about what a thousand calls leave
room for. -/
structure Room where
  collections : Nat := 490
  merges : Nat := 970
  marks : Nat := 970
deriving DecidableEq, Repr

/-- A result, unless its absence shows that a text is malformed. -/
def wellFormed {α : Type} : Option α → Except Defect α
  | some a => .ok a
  | none => .error .malformed

end Yaml

end PodTable
