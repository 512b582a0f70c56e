import PodTable.Number.Decimal
import PodTable.Text.Digit

/-!
# Spellings of quantities

A quantity is spelled as a number, with an optional sign and decimal digits before and after an
optional point, followed by nothing, by one of fifteen suffixes, or by a power of ten. A
`Spelling` keeps all of it: `Spelling.text` is the text of a spelling, and `Spelling.ofText?`
reads a text. A bare `E` is a suffix, and an `E` before a sign or a digit begins a power of ten.
-/

namespace PodTable

-- Powers are those of natural numbers, whatever other instances a module imports.
attribute [local instance (2000)] instPowNat

namespace Quantity

/-- The sign written before a number, if any. -/
inductive Sign where
  | unsigned
  | plus
  | minus
deriving DecidableEq, Repr

/-- The suffixes: six binary ones, then nine decimal ones. -/
inductive Suffix where
  | kibi | mebi | gibi | tebi | pebi | exbi
  | nano | micro | milli | kilo | mega | giga | tera | peta | exa
deriving DecidableEq, Repr

/-- What follows the number of a quantity. -/
inductive Scale where
  | unit
  | suffix (suffix : Suffix)
  | power (mark : Char) (sign : Sign) (digits : List Char)
deriving DecidableEq, Repr

/-- A written quantity. -/
structure Spelling where
  sign : Sign
  whole : List Char
  point : Bool
  fraction : List Char
  scale : Scale
deriving DecidableEq, Repr

namespace Sign

/-- The text of a sign. -/
def text : Sign → List Char
  | unsigned => []
  | plus => ['+']
  | minus => ['-']

/-- The sign at the start of a text. -/
def ofText : List Char → Sign
  | '+' :: _ => plus
  | '-' :: _ => minus
  | _ => unsigned

end Sign

namespace Suffix

/-- All suffixes. -/
def all : List Suffix :=
  [ kibi, mebi, gibi, tebi, pebi, exbi,
    nano, micro, milli, kilo, mega, giga, tera, peta, exa ]

/-- The text of a suffix. -/
def text : Suffix → List Char
  | kibi => ['K', 'i']
  | mebi => ['M', 'i']
  | gibi => ['G', 'i']
  | tebi => ['T', 'i']
  | pebi => ['P', 'i']
  | exbi => ['E', 'i']
  | nano => ['n']
  | micro => ['u']
  | milli => ['m']
  | kilo => ['k']
  | mega => ['M']
  | giga => ['G']
  | tera => ['T']
  | peta => ['P']
  | exa => ['E']

/-- The coefficient and the power of ten that a suffix multiplies by. -/
def multiplier : Suffix → Nat × Int
  | kibi => (1024, 0)
  | mebi => (1024 ^ (2 : Nat), 0)
  | gibi => (1024 ^ (3 : Nat), 0)
  | tebi => (1024 ^ (4 : Nat), 0)
  | pebi => (1024 ^ (5 : Nat), 0)
  | exbi => (1024 ^ (6 : Nat), 0)
  | nano => (1, -9)
  | micro => (1, -6)
  | milli => (1, -3)
  | kilo => (1, 3)
  | mega => (1, 6)
  | giga => (1, 9)
  | tera => (1, 12)
  | peta => (1, 15)
  | exa => (1, 18)

end Suffix

namespace Scale

/-- The text of a scale. -/
def text : Scale → List Char
  | unit => []
  | suffix s => s.text
  | power mark sign digits => mark :: (sign.text ++ digits)

/-- The power of ten that a text denotes: a mark, an optional sign, and digits. -/
def powerOfText? : List Char → Option Scale
  | [] => none
  | mark :: cs =>
    let sign := Sign.ofText cs
    let digits := cs.drop sign.text.length
    if (mark = 'e' ∨ mark = 'E') ∧ digits ≠ [] ∧ digits.all Text.isDigit then
      some (power mark sign digits)
    else none

/-- The scale that a text denotes. -/
def ofText? (cs : List Char) : Option Scale :=
  if cs.isEmpty then some unit
  else
    match Suffix.all.find? (fun s => s.text == cs) with
    | some s => some (suffix s)
    | none => powerOfText? cs

end Scale

namespace Spelling

/-- The text of a spelling. -/
def text (q : Spelling) : List Char :=
  q.sign.text ++ q.whole ++ (if q.point then ['.'] else []) ++ q.fraction ++ q.scale.text

/-- The spelling that a text is. -/
def ofText? (cs : List Char) : Option Spelling :=
  let sign := Sign.ofText cs
  let cs := cs.drop sign.text.length
  let whole := cs.takeWhile Text.isDigit
  let cs := cs.dropWhile Text.isDigit
  let point := cs.head? == some '.'
  let cs := if point then cs.tail else cs
  let fraction := if point then cs.takeWhile Text.isDigit else []
  let cs := if point then cs.dropWhile Text.isDigit else cs
  if whole.isEmpty && fraction.isEmpty then none
  else (Scale.ofText? cs).map (fun scale => ⟨sign, whole, point, fraction, scale⟩)

/-- The number of a spelling, without its scale. -/
def number (q : Spelling) : Decimal :=
  ⟨q.sign = .minus, Text.decimalValue (q.whole ++ q.fraction), -(q.fraction.length : Int)⟩

end Spelling

end Quantity

end PodTable
