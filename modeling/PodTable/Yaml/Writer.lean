import PodTable.Text.Numeral
import PodTable.Yaml.Plain

/-!
# Writing texts

A text is written as a plain scalar where that reads as the same text, else between apostrophes,
and with escapes between quotation marks if it holds characters that only an escape can express,
or blanks and line ends in an order that would be lost.

Lines of more than eighty characters are broken at single spaces, and between quotation marks
also at an escape. The lines after a break are indented.
-/

namespace PodTable

namespace Yaml

/-- The number of columns after which a line is broken. -/
def lineWidth : Nat := 80

/-- A line end and the indentation of the next line. -/
def nextLine (indent : Nat) : List Char := '\n' :: List.replicate indent ' '

/-! ### The style of a text -/

/-- Whether a character may stand in a text without an escape. -/
def isDirect (c : Char) : Bool := c == '\n' || (0x20 ≤ c.toNat && c.toNat ≤ 0x7E)

/-- Whether `c` and then `d` occur next to each other. -/
def hasPair (c d : Char) : List Char → Bool
  | a :: b :: cs => (a == c && b == d) || hasPair c d (b :: cs)
  | _ => false

/-- Whether a text can only be written with escapes. -/
def needsEscapes (cs : List Char) : Bool :=
  cs.any (fun c => !isDirect c) || hasPair ' ' '\n' cs || hasPair '\n' ' ' cs

/-- Whether what follows a character in a text ends it or is blank. -/
def endsOrBlank (cs : List Char) : Bool := (cs.head?.map isBlankOrEnd).getD true

/-- Whether a text starts as no plain scalar may start. -/
def startsAsIndicator : List Char → Bool
  | [] => false
  | c :: cs =>
    isIndicator c
      || ((c == '?' || c == ':' || c == '-') && endsOrBlank cs)
      || (c :: cs).take 3 == ['-', '-', '-'] || (c :: cs).take 3 == ['.', '.', '.']

/-- Whether a text holds a colon before a blank or at its end, or a comment. -/
def holdsIndicator : List Char → Bool
  | c :: d :: cs =>
    (d == ':' && endsOrBlank cs) || (isBlankOrEnd c && d == '#') || holdsIndicator (d :: cs)
  | _ => false

/-- Whether a text reads as itself when it is written as a plain scalar. -/
def isPlainText (cs : List Char) : Bool :=
  Tag.ofPlain cs == .text
    && cs.head? != some ' ' && cs.getLast? != some ' ' && !cs.contains '\n'
    && !startsAsIndicator cs && !holdsIndicator cs

/-! ### Runs of characters -/

/-- The class of a character in a run: a space, a line end or another. -/
def runClass (c : Char) : Nat := if c == ' ' then 0 else if c == '\n' then 1 else 2

/-- The longest runs of characters of one class. -/
def runs : List Char → List (List Char)
  | [] => []
  | c :: cs =>
    match runs cs with
    | (d :: run) :: more =>
      if runClass c == runClass d then (c :: d :: run) :: more else [c] :: (d :: run) :: more
    | more => [c] :: more

/-- Write runs from a column on. A single space between two others is where a long line is
broken, and a line end is written twice. -/
def writeRuns (indent : Nat) : Bool → Nat → List (List Char) → List Char
  | _, _, [] => []
  | first, column, run :: more =>
    if run == [' '] && lineWidth < column && !first && !more.isEmpty then
      nextLine indent ++ writeRuns indent false indent more
    else if run.head? == some '\n' then
      run ++ nextLine indent ++ writeRuns indent false indent more
    else run ++ writeRuns indent false (column + run.length) more

/-! ### Escapes -/

/-- The letter that stands for a character in an escape. -/
def escapeLetter? (c : Char) : Option Char :=
  match c.toNat with
  | 0x00 => some '0'
  | 0x07 => some 'a'
  | 0x08 => some 'b'
  | 0x09 => some 't'
  | 0x0A => some 'n'
  | 0x0B => some 'v'
  | 0x0C => some 'f'
  | 0x0D => some 'r'
  | 0x1B => some 'e'
  | 0x22 => some c
  | 0x5C => some c
  | 0x85 => some 'N'
  | 0xA0 => some '_'
  | 0x2028 => some 'L'
  | 0x2029 => some 'P'
  | _ => none

/-- Upper case of a letter of a hexadecimal number. -/
def upperHex (c : Char) : Char := if 'a' ≤ c && c ≤ 'f' then Char.ofNat (c.toNat - 0x20) else c

/-- The backslash. -/
def backslash : Char := Char.ofNat 0x5C

/-- The escape of a character. -/
def escape (c : Char) : List Char :=
  let hex (n : Nat) := (Text.hexDigits n c.toNat).map upperHex
  backslash ::
    match escapeLetter? c with
    | some letter => [letter]
    | none =>
      if c.toNat ≤ 0xFF then 'x' :: hex 2
      else if c.toNat ≤ 0xFFFF then 'u' :: hex 4
      else 'U' :: hex 8

/-- Whether a character is written as an escape between quotation marks. -/
def isEscaped (c : Char) : Bool :=
  !(0x20 ≤ c.toNat && c.toNat ≤ 0x7E) || c.toNat == 0x22 || c.toNat == 0x5C

/-- A backslash if the next character is a space, which would be lost after a line break. -/
def guardSpace (next : Option Char) : List Char := if next == some ' ' then [backslash] else []

/-- Write characters between quotation marks from a column on, where `pending` is what is still
to be written before them. -/
def writeEscaped (indent : Nat) : Bool → Nat → List Char → List Char → List Char
  | _, _, pending, [] => pending
  | first, column, pending, c :: cs =>
    let breakable := !first && !cs.isEmpty
    if isEscaped c then
      let written := pending ++ escape c
      let column := column + written.length
      if breakable && lineWidth + 1 < column then
        let guarded := guardSpace cs.head?
        written ++ backslash :: nextLine indent ++ guarded
          ++ writeEscaped indent false (indent + guarded.length) [] cs
      else written ++ writeEscaped indent false column [] cs
    else if breakable && (c == ' ' || pending.isEmpty) && lineWidth < column + pending.length then
      let guarded := guardSpace (some c)
      pending ++ backslash :: nextLine indent ++ guarded
        ++ writeEscaped indent false (indent + guarded.length) [c] cs
    else writeEscaped indent false column (pending ++ [c]) cs

/-! ### Texts -/

/-- Write a text after a space, in a line of which `column` characters are written already. -/
def writeText (indent column : Nat) (cs : List Char) : List Char :=
  if needsEscapes cs then
    let quote := Char.ofNat 0x22
    ' ' :: quote :: writeEscaped indent true (column + 2) [] cs ++ [quote]
  else if isPlainText cs then ' ' :: writeRuns indent true (column + 1) (runs cs)
  else
    let quote := Char.ofNat 0x27
    let doubled := cs.flatMap (fun c => if c == quote then [quote, quote] else [c])
    ' ' :: quote :: writeRuns indent true (column + 2) (runs doubled) ++ [quote]

end Yaml

end PodTable
