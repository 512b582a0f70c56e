/-!
# Characters with positions

A text to be read is a list of glyphs: characters with their line, their column and their index.
The last glyph is the null character, which no text may hold, and stands at the end.
-/

namespace PodTable

namespace Yaml

/-- A character and where it stands. -/
structure Glyph where
  char : Char
  line : Nat
  column : Nat
  index : Nat

/-- The character at the end of a text. -/
def endChar : Char := Char.ofNat 0

/-- The byte order mark. -/
def byteOrderMark : Char := Char.ofNat 0xFEFF

/-- Whether a character ends a line. -/
def isBreak (c : Char) : Bool :=
  c == '\n' || c == '\r' || c.toNat == 0x85 || c.toNat == 0x2028 || c.toNat == 0x2029

/-- Whether a character ends a line or the text. -/
def isBreakOrEnd (c : Char) : Bool := isBreak c || c == endChar

/-- Whether a character is a space or ends a line or the text. -/
def isSpaceOrEnd (c : Char) : Bool := c == ' ' || isBreakOrEnd c

/-- Whether a character is a space or a tab or ends a line or the text. -/
def isBlankOrEnd (c : Char) : Bool := c == '\t' || isSpaceOrEnd c

/-- Whether a character is a letter, a digit, a hyphen or an underscore. -/
def isWordChar (c : Char) : Bool := c.isAlphanum || c == '-' || c == '_'

/-- Whether a character is an indicator that no plain scalar starts with. -/
def isIndicator (c : Char) : Bool :=
  [ ',', '[', ']', '{', '}', '#', '&', '*', '!', '|', '>', Char.ofNat 0x27, Char.ofNat 0x22,
    '%', '@', Char.ofNat 0x60 ].contains c

/-- Whether a character may stand in a text. -/
def isAllowed (c : Char) : Bool :=
  let n := c.toNat
  n == 0x9 || n == 0xA || n == 0xD || (0x20 ≤ n && n ≤ 0x7E) || n == 0x85
    || (0xA0 ≤ n && n ≤ 0xFFFD) || 0x10000 ≤ n

/-- Give positions to the characters of a text, the first of which stands at the position given.
A line feed after a carriage return belongs to the same line end. -/
def place (line column index : Nat) : List Char → List Glyph
  | [] => [⟨endChar, line, column, index⟩]
  | c :: cs =>
    ⟨c, line, column, index⟩ ::
      (if isBreak c && !(c == '\r' && cs.head? == some '\n') then place (line + 1) 0 (index + 1) cs
      else if c == byteOrderMark then place line column (index + 1) cs
      else place line (column + 1) (index + 1) cs)

/-- The character `n` places ahead. -/
def peek (gs : List Glyph) (n : Nat) : Char := ((gs[n]?).map Glyph.char).getD endChar

/-- The column of the first glyph. -/
def column (gs : List Glyph) : Nat := ((gs.head?).map Glyph.column).getD 0

/-- The line of the first glyph. -/
def line (gs : List Glyph) : Nat := ((gs.head?).map Glyph.line).getD 0

/-- The index of the first glyph. -/
def index (gs : List Glyph) : Nat := ((gs.head?).map Glyph.index).getD 0

/-- The characters at the start that belong to a class. -/
def takeChars (p : Char → Bool) (gs : List Glyph) : List Char :=
  (gs.takeWhile (fun g => p g.char)).map Glyph.char

/-- The glyphs after the characters of a class. -/
def skip (p : Char → Bool) (gs : List Glyph) : List Glyph := gs.dropWhile (fun g => p g.char)

/-- The line end that a text starts with, in the form in which it counts, and the rest. -/
def lineBreak (gs : List Glyph) : List Char × List Glyph :=
  let c := peek gs 0
  if c == '\r' && peek gs 1 == '\n' then (['\n'], gs.drop 2)
  else if c == '\r' || c == '\n' || c.toNat == 0x85 then (['\n'], gs.drop 1)
  else if isBreak c then ([c], gs.drop 1)
  else ([], gs)

/-- Whether a line starts with three hyphens or three points that stand alone. -/
def isDocumentMarker (gs : List Glyph) : Bool :=
  let c := peek gs 0
  (c == '-' || c == '.') && peek gs 1 == c && peek gs 2 == c && isBlankOrEnd (peek gs 3)

/-- The rest of a line after spaces and maybe a comment, unless there is anything else. -/
def restOfLine? (gs : List Glyph) : Option (List Glyph) :=
  let gs := skip (· == ' ') gs
  let gs := if peek gs 0 == '#' then skip (fun c => !isBreakOrEnd c) gs else gs
  if isBreakOrEnd (peek gs 0) then some (lineBreak gs).2 else none

end Yaml

end PodTable
