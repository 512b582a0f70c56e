import PodTable.Yaml.Defect
import PodTable.Yaml.Glyph

/-!
# Scalars

The text of a scalar may be plain, quoted in two ways, or a block of lines that is kept or
folded. Each reader takes the glyphs from the start of a scalar and gives its text and the
glyphs after it.

A line end inside a scalar is folded into a space, and `n` line ends in a row into `n - 1`, but
not in a block that is kept.
-/

namespace PodTable

-- Powers are those of natural numbers, whatever other instances a module imports.
attribute [local instance (2000)] instPowNat

namespace Yaml

/-- What a line end and the line ends after it amount to. -/
def folded (first : List Char) (more : List (List Char)) : List Char :=
  if first != ['\n'] then first ++ more.flatten
  else if more.isEmpty then [' ']
  else more.flatten

/-! ### Plain scalars -/

/-- Whether a plain scalar ends before the glyphs. -/
def endsPlain (inFlow : Bool) (gs : List Glyph) : Bool :=
  let c := peek gs 0
  let d := peek gs 1
  isBlankOrEnd c
    || (c == ':' && (isBlankOrEnd d || (inFlow && ",[]{}".toList.contains d)))
    || (inFlow && ",?[]{}".toList.contains c)

/-- The characters of a plain scalar up to a blank. -/
def plainChunk (inFlow : Bool) : List Glyph → List Char × List Glyph
  | [] => ([], [])
  | g :: gs =>
    if endsPlain inFlow (g :: gs) then ([], g :: gs)
    else
      let (cs, rest) := plainChunk inFlow gs
      (g.char :: cs, rest)

/-- The line ends after the first one in a plain scalar, and the rest, unless a line starts with
a document marker. -/
def plainBreaks : Nat → List Glyph → Option (List (List Char) × List Glyph)
  | 0, gs => some ([], gs)
  | fuel + 1, gs =>
    if peek gs 0 == ' ' then plainBreaks fuel (gs.drop 1)
    else if isBreak (peek gs 0) then
      let (b, gs) := lineBreak gs
      if isDocumentMarker gs then none
      else (plainBreaks fuel gs).map (fun r => (b :: r.1, r.2))
    else some ([], gs)

/-- A gap in a plain scalar: its text, whether a line ended, and the glyphs after it. A gap
before a document marker has no text. -/
def plainGap (gs : List Glyph) : List Char × Bool × List Glyph :=
  let spaces := takeChars (· == ' ') gs
  let gs := skip (· == ' ') gs
  if isBreak (peek gs 0) then
    let (b, gs) := lineBreak gs
    if isDocumentMarker gs then ([], true, gs)
    else
      match plainBreaks gs.length gs with
      | some (bs, rest) => (folded b bs, true, rest)
      | none => ([], true, skip (fun c => c == ' ' || isBreak c) gs)
  else (spaces, false, gs)

/-- The text of a plain scalar whose lines are indented by at least `indent`, whether a line has
ended just before the rest, and the rest. -/
def plainText (inFlow : Bool) (indent : Int) :
    Nat → List Char → Bool → List Glyph → List Char × Bool × List Glyph
  | 0, _, ended, gs => ([], ended, gs)
  | fuel + 1, gap, ended, gs =>
    if peek gs 0 == '#' then ([], ended, gs)
    else
      let (cs, rest) := plainChunk inFlow gs
      if cs.isEmpty then ([], ended, gs)
      else
        let (gap', ended', rest') := plainGap rest
        if gap'.isEmpty || peek rest' 0 == '#' || (!inFlow && (column rest' : Int) < indent) then
          (gap ++ cs, ended', rest')
        else
          let (more, ended'', rest'') := plainText inFlow indent fuel gap' ended' rest'
          (gap ++ cs ++ more, ended'', rest'')

/-! ### Quoted scalars -/

/-- The line ends in a quoted scalar after the first one, and the rest, unless a line starts with
a document marker. -/
def quotedBreaks : Nat → List Glyph → Option (List (List Char) × List Glyph)
  | 0, gs => some ([], gs)
  | fuel + 1, gs =>
    if isDocumentMarker gs then none
    else
      let gs := skip (fun c => c == ' ' || c == '\t') gs
      if isBreak (peek gs 0) then
        let (b, gs) := lineBreak gs
        (quotedBreaks fuel gs).map (fun r => (b :: r.1, r.2))
      else some ([], gs)

/-- What an escaped letter stands for. -/
def escapeOf? (c : Char) : Option Char :=
  match c with
  | '0' => some (Char.ofNat 0)
  | 'a' => some (Char.ofNat 7)
  | 'b' => some (Char.ofNat 8)
  | 't' => some '\t'
  | '\t' => some '\t'
  | 'n' => some '\n'
  | 'v' => some (Char.ofNat 11)
  | 'f' => some (Char.ofNat 12)
  | 'r' => some '\r'
  | 'e' => some (Char.ofNat 27)
  | ' ' => some ' '
  | '/' => some '/'
  | 'N' => some (Char.ofNat 0x85)
  | '_' => some (Char.ofNat 0xA0)
  | 'L' => some (Char.ofNat 0x2028)
  | 'P' => some (Char.ofNat 0x2029)
  | c => if c.toNat == 0x22 || c.toNat == 0x5C then some c else none

/-- The number of hexadecimal digits after an escaped letter. -/
def escapeWidth? (c : Char) : Option Nat :=
  match c with
  | 'x' => some 2
  | 'u' => some 4
  | 'U' => some 8
  | _ => none

/-- The number that hexadecimal digits denote. -/
def hexNumber? (cs : List Char) : Option Nat :=
  cs.foldlM (fun n c => (Literal.hexValue? c).map (16 * n + ·)) 0

/-- The code point of a number in an escape. -/
def codePoint (n : Nat) : Except Defect Nat :=
  if 2 ^ (31 : Nat) ≤ n then .error .oversizedCode
  else if 0x110000 ≤ n then .error .noCharacter
  else .ok n

/-- The text of an escape after its backslash, and the rest. -/
def escapeText (gs : List Glyph) : Except Defect (Text.Codes × List Glyph) :=
  let c := peek gs 0
  match escapeOf? c with
  | some d => .ok ([d.toNat], gs.drop 1)
  | none =>
    match escapeWidth? c with
    | some n => do
      let number ← wellFormed (hexNumber? ((List.range n).map (fun i => peek gs (i + 1))))
      let code ← codePoint number
      .ok ([code], gs.drop (n + 1))
    | none =>
      if isBreak c then do
        let gs := (lineBreak gs).2
        let (bs, gs) ← wellFormed (quotedBreaks gs.length gs)
        .ok (.ofChars bs.flatten, gs)
      else .error .malformed

/-- A gap in a quoted scalar and the rest. -/
def quotedGap? (gs : List Glyph) : Option (List Char × List Glyph) :=
  let blanks := takeChars (fun c => c == ' ' || c == '\t') gs
  let gs := skip (fun c => c == ' ' || c == '\t') gs
  if peek gs 0 == endChar then none
  else if isBreak (peek gs 0) then do
    let (b, gs) := lineBreak gs
    let (bs, gs) ← quotedBreaks gs.length gs
    some (folded b bs, gs)
  else some (blanks, gs)

/-- The text of a quoted scalar after its opening quote `q`, and the rest. Between quotation marks
a backslash begins an escape, and between apostrophes an apostrophe is written twice. -/
def quotedText (q : Char) : Nat → List Glyph → Except Defect (Text.Codes × List Glyph)
  | 0, _ => .error .malformed
  | fuel + 1, gs =>
    let c := peek gs 0
    let double := q.toNat == 0x22
    if c == q then
      if !double && peek gs 1 == q then
        (quotedText q fuel (gs.drop 2)).map (fun r => (q.toNat :: r.1, r.2))
      else .ok ([], gs.drop 1)
    else if double && c.toNat == 0x5C then do
      let (ns, gs) ← escapeText (gs.drop 1)
      let (more, gs) ← quotedText q fuel gs
      .ok (ns ++ more, gs)
    else if isBlankOrEnd c then do
      let (cs, gs) ← wellFormed (quotedGap? gs)
      let (more, gs) ← quotedText q fuel gs
      .ok (.ofChars cs ++ more, gs)
    else (quotedText q fuel (gs.drop 1)).map (fun r => (c.toNat :: r.1, r.2))

/-! ### Blocks -/

/-- What becomes of the line ends at the end of a block. -/
inductive Chomping where
  | clip
  | strip
  | keep
deriving DecidableEq

/-- The chomping that an indicator asks for. -/
def chompingOf? (c : Char) : Option Chomping :=
  if c == '+' then some .keep else if c == '-' then some .strip else none

/-- The indentation that an indicator asks for. -/
def incrementOf? (c : Char) : Option Nat :=
  if '1' ≤ c && c ≤ '9' then some (c.toNat - 0x30) else none

/-- The indicators of a block, in either order, and the rest. -/
def blockIndicators? (gs : List Glyph) : Option (Chomping × Option Nat × List Glyph) :=
  let c := peek gs 0
  let d := peek gs 1
  let r :=
    match chompingOf? c, incrementOf? c with
    | some h, _ =>
      match incrementOf? d with
      | some n => (h, some n, gs.drop 2)
      | none => (h, none, gs.drop 1)
    | _, some n =>
      match chompingOf? d with
      | some h => (h, some n, gs.drop 2)
      | none => (.clip, some n, gs.drop 1)
    | _, _ => (.clip, none, gs)
  if isSpaceOrEnd (peek r.2.2 0) then some r else none

/-- The empty lines at the start of a block, the greatest column reached by their spaces, and the
rest. -/
def leadingLines : Nat → List Glyph → List (List Char) × Nat × List Glyph
  | 0, gs => ([], 0, gs)
  | fuel + 1, gs =>
    if peek gs 0 == ' ' then
      let (bs, n, rest) := leadingLines fuel (gs.drop 1)
      (bs, max n (column (gs.drop 1)), rest)
    else if isBreak (peek gs 0) then
      let (b, gs) := lineBreak gs
      let (bs, n, rest) := leadingLines fuel gs
      (b :: bs, n, rest)
    else ([], 0, gs)

/-- The glyphs after spaces up to a column. -/
def skipIndent (indent : Nat) (gs : List Glyph) : List Glyph :=
  gs.dropWhile (fun g => g.char == ' ' && g.column < indent)

/-- The empty lines before a line of a block, and the rest. -/
def emptyLines (indent : Nat) : Nat → List Glyph → List (List Char) × List Glyph
  | 0, gs => ([], gs)
  | fuel + 1, gs =>
    let gs := skipIndent indent gs
    if isBreak (peek gs 0) then
      let (b, gs) := lineBreak gs
      let (bs, rest) := emptyLines indent fuel gs
      (b :: bs, rest)
    else ([], gs)

/-- Whether a line of a block stands at the start of the glyphs. -/
def atLine (indent : Nat) (gs : List Glyph) : Bool :=
  column gs == indent && peek gs 0 != endChar

/-- The text of the lines of a block, its last line end, the empty lines after it, and the
rest. -/
def blockLines (foldLines : Bool) (indent : Nat) :
    Nat → List Glyph → List Char × List Char × List (List Char) × List Glyph
  | 0, gs => ([], [], [], gs)
  | fuel + 1, gs =>
    let isText (c : Char) := c != ' ' && c != '\t'
    let starts := isText (peek gs 0)
    let cs := takeChars (fun c => !isBreakOrEnd c) gs
    let (b, gs) := lineBreak (skip (fun c => !isBreakOrEnd c) gs)
    let (bs, gs) := emptyLines indent gs.length gs
    if atLine indent gs then
      let joint :=
        if foldLines && b == ['\n'] && starts && isText (peek gs 0) then
          (if bs.isEmpty then [' '] else [])
        else b
      let (more, last, after, rest) := blockLines foldLines indent fuel gs
      (cs ++ joint ++ bs.flatten ++ more, last, after, rest)
    else (cs, b, bs, gs)

/-- The text of a block after its first character, and the rest. The block stands in a
collection indented by `parent`. -/
def blockText? (foldLines : Bool) (parent : Int) (gs : List Glyph) :
    Option (List Char × List Glyph) := do
  let (chomping, increment, gs) ← blockIndicators? gs
  let gs ← restOfLine? gs
  let least := max 1 (parent + 1).toNat
  let (bs, indent, gs) : List (List Char) × Nat × List Glyph :=
    match increment with
    | none =>
      let (bs, n, gs) := leadingLines gs.length gs
      (bs, max least n, gs)
    | some n =>
      let (bs, gs) := emptyLines (least + n - 1) gs.length gs
      (bs, least + n - 1, gs)
  let (cs, last, after, rest) : List Char × List Char × List (List Char) × List Glyph :=
    if atLine indent gs then
      let (cs, last, after, rest) := blockLines foldLines indent gs.length gs
      (bs.flatten ++ cs, last, after, rest)
    else ([], [], bs, gs)
  let ending := match chomping with
    | .strip => []
    | .clip => last
    | .keep => last ++ after.flatten
  some (cs ++ ending, rest)

end Yaml

end PodTable
