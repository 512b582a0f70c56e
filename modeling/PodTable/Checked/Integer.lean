import PodTable.Checked
import PodTable.Number.Literal

/-!
# Whole numbers in texts of fields

A field for a whole number may hold a text. White space around the number does not count, and
neither do a plus sign, zeros in front, a point with zeros after it, and single underscores
between digits. What is left is a numeral: digits after an optional minus sign.

Zeros in front may be mixed with underscores, and a minus sign may follow them.
-/

namespace PodTable

namespace Checked

/-- Whether `c` is one of the digits from 1 to 9. -/
def isLeadingDigit (c : Char) : Bool := '1' ≤ c && c ≤ '9'

/-- The text from the first character on that is no zero in front, after the zero or underscore
`last`. The last zero in front is kept before a point and at the end. -/
def afterZeros? (last : Char) : List Char → Option (List Char)
  | [] => some [last]
  | c :: cs =>
    if c = '0' ∨ c = '_' then afterZeros? c cs
    else if isLeadingDigit c || c = '-' then some (c :: cs)
    else if c = '.' then some (last :: c :: cs)
    else none

/-- A text that starts with a digit, without zeros in front. -/
def withoutZeros? : List Char → Option (List Char)
  | [] => none
  | c :: cs =>
    if c = '0' then afterZeros? c cs else if isLeadingDigit c then some (c :: cs) else none

/-- A text without a point and zeros at its end. -/
def withoutFraction (cs : List Char) : List Char :=
  let zeros := (cs.dropWhile (· != '.')).drop 1
  if !zeros.isEmpty && zeros.all (· == '0') then cs.takeWhile (· != '.') else cs

/-- Whether there are two underscores next to each other. -/
def hasGap : List Char → Bool
  | c :: d :: cs => (c == '_' && d == '_') || hasGap (d :: cs)
  | _ => false

/-- A text without its underscores, unless two of them meet or one stands at an end. -/
def ungrouped (cs : List Char) : List Char :=
  if cs.head? = some '_' ∨ cs.getLast? = some '_' ∨ hasGap cs then cs else cs.filter (· != '_')

/-- The numeral that a text amounts to, with its sign. -/
def numeralOf? (cs : List Char) : Option (List Char) := do
  let cs := Text.trimBy Text.isSpace cs
  let (plus, cs) : Bool × List Char := match cs with
    | '+' :: cs => (true, cs)
    | cs => (false, cs)
  let (minus, cs) : Bool × List Char := match cs with
    | '-' :: cs => (true, cs)
    | cs => (false, cs)
  if plus && minus then none
  else
    let cs ← withoutZeros? cs
    let cs := ungrouped (withoutFraction cs)
    some (if minus then '-' :: cs else cs)

/-- Read the digits of a numeral. Only a single zero may stand in front. -/
def digits (cs : List Char) : Checked Nat :=
  let ds := cs.takeWhile Text.isAsciiDigit
  if ds.isEmpty || (ds.head? = some '0' && 1 < ds.length) then fault .unreadableInteger
  else if Literal.digitLimit < ds.length then fault .oversizedInteger
  else if ds.length < cs.length then fault .unreadableInteger
  else sound (Text.decimalValue ds)

/-- Read a whole number from a text. -/
def integerOfText (s : String) : Checked Int :=
  match numeralOf? s.toList with
  | some ('-' :: cs) => (digits cs).map (fun n : Nat => -(n : Int))
  | some cs => (digits cs).map Int.ofNat
  | none => fault .unreadableInteger

end Checked

end PodTable
