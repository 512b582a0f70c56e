import PodTable.Yaml.Scalar
import PodTable.Yaml.Token

/-!
# Properties and directives

A node may have an anchor, a name by which it is referred to, and a tag, which says what kind of
node it is. A tag is written in full between angle brackets or begins with a handle, whose
meaning a directive at the head of a document may give.

Each reader takes the glyphs from the start of its construct and gives what it reads and the
glyphs after it.
-/

namespace PodTable

namespace Yaml

/-- A name of letters, digits, hyphens and underscores, and the rest. -/
def name? (gs : List Glyph) : Option (String × List Glyph) :=
  let cs := takeChars isWordChar gs
  if cs.isEmpty then none else some (String.ofList cs, skip isWordChar gs)

/-- Whether a character may follow the name of an anchor. -/
def endsAnchor (c : Char) : Bool :=
  isBlankOrEnd c || ['?', ':', ',', ']', '}', '%', '@', Char.ofNat 0x60].contains c

/-- The name of an anchor after its indicator, and the rest. -/
def anchorName? (gs : List Glyph) : Option (String × List Glyph) := do
  let (name, gs) ← name? gs
  if endsAnchor (peek gs 0) then some (name, gs) else none

/-! ### Tags -/

/-- Whether a character may stand in the suffix of a tag. -/
def isTagChar (c : Char) : Bool :=
  c.isAlphanum
    || ['-', ';', '/', '?', ':', '@', '&', '=', '+', '$', ',', '_', '.', '!', '~', '*',
      Char.ofNat 0x27, '(', ')', '[', ']', '%'].contains c

/-- The bytes of the escapes at the start, and the rest. -/
def escapedBytes? : Nat → List Glyph → Option (List UInt8 × List Glyph)
  | 0, _ => none
  | fuel + 1, gs =>
    if peek gs 0 == '%' then do
      let high ← Literal.hexValue? (peek gs 1)
      let low ← Literal.hexValue? (peek gs 2)
      let (bytes, rest) ← escapedBytes? fuel (gs.drop 3)
      some ((16 * high + low).toUInt8 :: bytes, rest)
    else some ([], gs)

/-- The characters of the suffix of a tag, and the rest. -/
def tagChars? : Nat → List Glyph → Option (List Char × List Glyph)
  | 0, _ => none
  | fuel + 1, gs =>
    let c := peek gs 0
    if c == '%' then do
      let (bytes, gs) ← escapedBytes? gs.length gs
      let text ← String.fromUTF8? ⟨bytes.toArray⟩
      let (cs, rest) ← tagChars? fuel gs
      some (text.toList ++ cs, rest)
    else if isTagChar c then (tagChars? fuel (gs.drop 1)).map (fun r => (c :: r.1, r.2))
    else some ([], gs)

/-- The suffix of a tag and the rest. -/
def tagSuffix? (gs : List Glyph) : Option (String × List Glyph) :=
  if isTagChar (peek gs 0) then
    (tagChars? gs.length gs).map (fun r => (String.ofList r.1, r.2))
  else none

/-- A handle: an exclamation mark, or a name between two of them, and the rest. -/
def handle? (gs : List Glyph) : Option (String × List Glyph) :=
  if peek gs 0 != '!' then none
  else if peek gs 1 == ' ' then some ("!", gs.drop 1)
  else
    let cs := takeChars isWordChar (gs.drop 1)
    let gs := skip isWordChar (gs.drop 1)
    if peek gs 0 == '!' then some (String.ofList ('!' :: cs ++ ['!']), gs.drop 1) else none

/-- Whether another exclamation mark follows before the next blank. -/
def hasHandle (gs : List Glyph) : Bool :=
  (takeChars (fun c => !isSpaceOrEnd c) (gs.drop 1)).contains '!'

/-- A tag and the rest. -/
def tag? (gs : List Glyph) : Option (Token × List Glyph) := do
  let (tag, gs) ←
    if peek gs 1 == '<' then do
      let (suffix, gs) ← tagSuffix? (gs.drop 2)
      if peek gs 0 == '>' then some (Token.tag none suffix, gs.drop 1) else none
    else if isBlankOrEnd (peek gs 1) then some (Token.tag none "!", gs.drop 1)
    else do
      let (handle, gs) ← if hasHandle gs then handle? gs else some ("!", gs.drop 1)
      let (suffix, gs) ← tagSuffix? gs
      some (Token.tag (some handle) suffix, gs)
  if isSpaceOrEnd (peek gs 0) then some (tag, gs) else none

/-! ### Directives -/

/-- A number in decimal digits and the rest. -/
def versionNumber (gs : List Glyph) : Except Defect (Nat × List Glyph) :=
  let ds := takeChars Char.isDigit gs
  if ds.isEmpty then .error .malformed
  else if Literal.digitLimit < ds.length then .error (.noNumber (.overlong ds.length))
  else .ok (Text.decimalValue ds, skip Char.isDigit gs)

/-- The major number of a version and the rest. -/
def version (gs : List Glyph) : Except Defect (Token × List Glyph) := do
  let (major, gs) ← versionNumber (skip (· == ' ') gs)
  if peek gs 0 != '.' then .error .malformed
  let (_, gs) ← versionNumber (gs.drop 1)
  if isSpaceOrEnd (peek gs 0) then .ok (.version major, gs) else .error .malformed

/-- A handle with its meaning and the rest. -/
def shorthand? (gs : List Glyph) : Option (Token × List Glyph) := do
  let (handle, gs) ← handle? (skip (· == ' ') gs)
  if peek gs 0 != ' ' then none
  let (meaning, gs) ← tagSuffix? (skip (· == ' ') gs)
  if isSpaceOrEnd (peek gs 0) then some (.shorthand handle meaning, gs) else none

/-- A directive after its indicator, and the rest after the line. -/
def directive (gs : List Glyph) : Except Defect (Token × List Glyph) := do
  let (name, gs) ← wellFormed (name? gs)
  if !isSpaceOrEnd (peek gs 0) then .error .malformed
  let (token, gs) ←
    match name with
    | "YAML" => version gs
    | "TAG" => wellFormed (shorthand? gs)
    | _ => .ok (.directive, skip (fun c => !isBreakOrEnd c) gs)
  let rest ← wellFormed (restOfLine? gs)
  .ok (token, rest)

end Yaml

end PodTable
