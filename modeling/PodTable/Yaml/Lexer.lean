import PodTable.Yaml.Property

/-!
# Reading tokens

A lexer reads a text from the left and gathers its tokens. Outside brackets it keeps the columns
of the blocks that are open, and closes them when a line is indented less.

The key of an entry may be written without an indicator. It is known to be a key only at the
colon after it, and the lexer keeps for each pair of brackets the place where a key may have
started. Such a key has to end on its line and has at most 1024 characters.

Where a text cannot be read on, the tokens from the first possible start of a key on are not known,
and a broken token stands for them.
-/

namespace PodTable

namespace Yaml

/-- The place where a key may have started. -/
structure KeyStart where
  /-- The number of tokens before the key. -/
  position : Nat
  /-- Whether nothing but a key may stand there. -/
  required : Bool
  line : Nat
  column : Nat
  index : Nat

/-- The state of reading tokens. -/
structure Lexer where
  rest : List Glyph
  /-- The tokens read, the last one first. -/
  tokens : List Token := []
  /-- The column of the innermost open block, or `-1` outside all blocks. -/
  indent : Int := -1
  /-- The columns of the other open blocks, from the inside. -/
  indents : List Int := []
  /-- Whether a key may start at the next token. -/
  keyAllowed : Bool := true
  /-- The start of a key inside the innermost brackets. -/
  keyStart : Option KeyStart := none
  /-- The starts of keys outside the innermost brackets, from the inside. -/
  outerKeyStarts : List (Option KeyStart) := []

namespace Lexer

/-- Whether the lexer stands inside brackets. -/
def inFlow (l : Lexer) : Bool := !l.outerKeyStarts.isEmpty

/-- The column at which the lexer stands. -/
def column (l : Lexer) : Int := Yaml.column l.rest

/-- Add a token and go on with the rest of the text. -/
def push (t : Token) (rest : List Glyph) (l : Lexer) : Lexer :=
  { l with tokens := t :: l.tokens, rest := rest }

/-- Allow or forbid a key at the next token. -/
def allowKey (allowed : Bool) (l : Lexer) : Lexer := { l with keyAllowed := allowed }

/-! ### Between tokens -/

/-- The glyphs after spaces, comments and line ends, and whether a line ended. -/
def skipBlanks : Nat → List Glyph → Bool × List Glyph
  | 0, gs => (false, gs)
  | fuel + 1, gs =>
    let gs := skip (· == ' ') gs
    let gs := if peek gs 0 == '#' then skip (fun c => !isBreakOrEnd c) gs else gs
    if isBreak (peek gs 0) then (true, (skipBlanks fuel (lineBreak gs).2).2) else (false, gs)

/-- Go to the next token. Outside brackets a key may start on a new line. -/
def toNext (l : Lexer) : Lexer :=
  let gs := if index l.rest == 0 && peek l.rest 0 == byteOrderMark then l.rest.drop 1 else l.rest
  let (ended, gs) := skipBlanks gs.length gs
  { l with rest := gs, keyAllowed := l.keyAllowed || (ended && !l.inFlow) }

/-- Whether a key that started at `k` would have to have ended. -/
def isStale (l : Lexer) (k : KeyStart) : Bool :=
  k.line != line l.rest || k.index + 1024 < index l.rest

/-- The start of a key unless it is stale, which it may not be if it is required. -/
def fresh (l : Lexer) : Option KeyStart → Except Defect (Option KeyStart)
  | none => .ok none
  | some k =>
    if !l.isStale k then .ok (some k) else if k.required then .error .malformed else .ok none

/-- Forget the stale starts of keys. -/
def dropStale (l : Lexer) : Except Defect Lexer := do
  let keyStart ← l.fresh l.keyStart
  let outerKeyStarts ← l.outerKeyStarts.mapM l.fresh
  .ok { l with keyStart := keyStart, outerKeyStarts := outerKeyStarts }

/-! ### Blocks -/

/-- Close the blocks among `indents` whose columns are greater than `column`. -/
def closeBlocks (column : Int) : Int → List Int → List Token → Int × List Int × List Token
  | indent, [], tokens => (indent, [], tokens)
  | indent, outer :: indents, tokens =>
    if column < indent then closeBlocks column outer indents (.blockEnd :: tokens)
    else (indent, outer :: indents, tokens)

/-- Close the blocks whose columns are greater than `column`, outside brackets. -/
def unwind (column : Int) (l : Lexer) : Lexer :=
  if l.inFlow then l
  else
    let (indent, indents, tokens) := closeBlocks column l.indent l.indents l.tokens
    { l with indent := indent, indents := indents, tokens := tokens }

/-- Open a block at `column` unless one is open there, with the token `start` before the
tokens from `position` on. -/
def openBlock (start : Token) (column : Int) (position : Nat) (l : Lexer) : Lexer :=
  if l.inFlow || column ≤ l.indent then l
  else
    let n := l.tokens.length - position
    { l with
      tokens := l.tokens.take n ++ start :: l.tokens.drop n
      indent := column
      indents := l.indent :: l.indents }

/-- Open a block at the place where the lexer stands. -/
def openBlockHere (start : Token) (l : Lexer) : Lexer :=
  l.openBlock start l.column l.tokens.length

/-! ### Keys -/

/-- Forget the start of a key, which may not be required. -/
def dropKeyStart (l : Lexer) : Except Defect Lexer :=
  match l.keyStart with
  | some k => if k.required then .error .malformed else .ok { l with keyStart := none }
  | none => .ok l

/-- Remember that a key may start here. -/
def saveKeyStart (l : Lexer) : Except Defect Lexer :=
  if l.keyAllowed then do
    let l ← l.dropKeyStart
    let k : KeyStart := {
      position := l.tokens.length
      required := !l.inFlow && l.indent == l.column
      line := line l.rest
      column := Yaml.column l.rest
      index := index l.rest }
    .ok { l with keyStart := some k }
  else .ok l

/-- Add a token that may be the start of a key. -/
def pushStart (t : Token) (rest : List Glyph) (l : Lexer) : Except Defect Lexer :=
  l.saveKeyStart.map (fun l => (l.push t rest).allowKey false)

/-! ### Tokens -/

/-- Put the tokens that end a text. -/
def finish (l : Lexer) : Except Defect Lexer :=
  ((l.unwind (-1)).dropKeyStart).map (push .streamEnd [])

/-- Read a token that stands outside all blocks. -/
def pushOutside (t : Token) (rest : List Glyph) (l : Lexer) : Except Defect Lexer :=
  ((l.unwind (-1)).dropKeyStart).map (fun l => (l.push t rest).allowKey false)

/-- Read an opening bracket. -/
def openFlow (t : Token) (l : Lexer) : Except Defect Lexer :=
  l.saveKeyStart.map (fun l =>
    { l.push t (l.rest.drop 1) with
      keyAllowed := true
      keyStart := none
      outerKeyStarts := l.keyStart :: l.outerKeyStarts })

/-- Read a closing bracket. -/
def closeFlow (t : Token) (l : Lexer) : Except Defect Lexer :=
  match l.outerKeyStarts with
  | [] => .error .malformed
  | k :: ks =>
    .ok { l.push t (l.rest.drop 1) with
      keyAllowed := false
      keyStart := k
      outerKeyStarts := ks }

/-- Read a comma between entries. -/
def flowEntry (l : Lexer) : Except Defect Lexer :=
  l.dropKeyStart.map (fun l => (l.push .flowEntry (l.rest.drop 1)).allowKey true)

/-- Read the hyphen before an entry of a sequence. -/
def blockEntry (l : Lexer) : Except Defect Lexer :=
  if !l.inFlow && !l.keyAllowed then .error .malformed
  else
    (l.openBlockHere .blockSequenceStart).dropKeyStart.map
      (fun l => (l.push .blockEntry (l.rest.drop 1)).allowKey true)

/-- Read the indicator of a key or, where no key started, the indicator of a value. -/
def entryPart (t : Token) (l : Lexer) : Except Defect Lexer :=
  if !l.inFlow && !l.keyAllowed then .error .malformed
  else
    (l.openBlockHere .blockMappingStart).dropKeyStart.map
      (fun l => (l.push t (l.rest.drop 1)).allowKey (!l.inFlow))

/-- Put the token of a key where it started. -/
def insertKey (k : KeyStart) (l : Lexer) : Lexer :=
  let n := l.tokens.length - k.position
  let l := { l with tokens := l.tokens.take n ++ Token.key :: l.tokens.drop n, keyStart := none }
  l.openBlock .blockMappingStart k.column k.position

/-- Read the indicator of a value. -/
def value (l : Lexer) : Except Defect Lexer :=
  match l.keyStart with
  | some k => .ok (((l.insertKey k).push .value (l.rest.drop 1)).allowKey false)
  | none => l.entryPart .value

/-- Read a scalar between quotes `q`. -/
def quoted (q : Char) (l : Lexer) : Except Defect Lexer := do
  let (ns, rest) ← quotedText q l.rest.length (l.rest.drop 1)
  l.pushStart (.scalar false ns) rest

/-- Read a block, folded or not. -/
def block (foldLines : Bool) (l : Lexer) : Except Defect Lexer := do
  let l ← l.dropKeyStart
  let (cs, rest) ← wellFormed (blockText? foldLines l.indent (l.rest.drop 1))
  .ok ((l.push (.scalar false (.ofChars cs)) rest).allowKey true)

/-- Read a plain scalar. A key may start after it if it ended with its line. -/
def plain (l : Lexer) : Except Defect Lexer :=
  let (cs, ended, rest) := plainText l.inFlow (l.indent + 1) l.rest.length [] false l.rest
  (l.pushStart (.scalar true (.ofChars cs)) rest).map (allowKey ended)

/-- Whether an indicator that a plain scalar may start with stands for itself. -/
def isAlone (l : Lexer) : Bool := isBlankOrEnd (peek l.rest 1)

/-- Whether a plain scalar may start with a character. -/
def startsPlain (l : Lexer) (c : Char) : Bool :=
  if c == '-' then !l.isAlone
  else if c == '?' || c == ':' then !l.inFlow && !l.isAlone
  else !isBlankOrEnd c && !isIndicator c

/-- Read the token that starts with the character `c`. -/
def token (c : Char) (l : Lexer) : Except Defect Lexer :=
  let rest := l.rest.drop 1
  if c == '[' then l.openFlow .flowSequenceStart
  else if c == '{' then l.openFlow .flowMappingStart
  else if c == ']' then l.closeFlow .flowSequenceEnd
  else if c == '}' then l.closeFlow .flowMappingEnd
  else if c == ',' then l.flowEntry
  else if c == '-' && l.isAlone then l.blockEntry
  else if c == '?' && (l.inFlow || l.isAlone) then l.entryPart .key
  else if c == ':' && (l.inFlow || l.isAlone) then l.value
  else if c == '*' then
    (wellFormed (anchorName? rest)).bind (fun r => l.pushStart (.reference r.1) r.2)
  else if c == '&' then
    (wellFormed (anchorName? rest)).bind (fun r => l.pushStart (.anchor r.1) r.2)
  else if c == '!' then (wellFormed (tag? l.rest)).bind (fun r => l.pushStart r.1 r.2)
  else if c == '|' && !l.inFlow then l.block false
  else if c == '>' && !l.inFlow then l.block true
  else if c == Char.ofNat 0x27 || c == Char.ofNat 0x22 then l.quoted c
  else if l.startsPlain c then l.plain
  else .error .malformed

/-- Read one token. -/
def step (l : Lexer) : Except Defect Lexer := do
  let l ← l.toNext.dropStale
  let l := l.unwind l.column
  let c := peek l.rest 0
  if c == endChar then l.finish
  else if l.column == 0 && c == '%' then
    let (t, rest) ← directive (l.rest.drop 1)
    l.pushOutside t rest
  else if l.column == 0 && isDocumentMarker l.rest then
    l.pushOutside (if c == '-' then .documentStart else .documentEnd) (l.rest.drop 3)
  else l.token c

/-- The positions at which a key may have started. -/
def pending (l : Lexer) : List Nat :=
  (l.keyStart :: l.outerKeyStarts).filterMap
    (fun k => k.bind (fun k => if l.isStale k then none else some k.position))

/-- The tokens that are known before a text cannot be read on. -/
def known (l : Lexer) : List Token :=
  match l.pending.min? with
  | some n => l.tokens.reverse.take n
  | none => l.tokens.reverse

/-- Read tokens to the end of the text, or as far as it can be read. -/
def run : Nat → Lexer → List Token
  | 0, l => l.known ++ [.broken .malformed]
  | fuel + 1, l =>
    if l.rest.isEmpty then l.tokens.reverse
    else
      match l.step with
      | .ok l => run fuel l
      | .error d => l.known ++ [.broken d]

end Lexer

/-- The tokens of a text. -/
def tokens (text : String) : List Token :=
  if text.toList.all isAllowed then
    let gs := place 0 0 0 text.toList
    Lexer.run (gs.length + 1) { rest := gs }
  else [.broken .malformed]

end Yaml

end PodTable
