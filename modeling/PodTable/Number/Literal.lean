import PodTable.Number.Binary64
import PodTable.Text.Blank
import PodTable.Text.Codes
import PodTable.Text.Digit
import PodTable.Text.Split

/-!
# Numbers in texts

A text denotes a whole number in a base, or a floating point number. White space around the number
does not count, the digits may be those of any script, and a sign may stand before them. A base
of two, eight or sixteen may be marked by `0b`, `0o` or `0x`. A floating point number may have a
point and a power of ten, or be infinite or no number at all.

A whole number in base ten is read from at most `Literal.digitLimit` digits, and written in no
more of them.
-/

namespace PodTable

-- Powers are those of natural numbers, whatever other instances a module imports.
attribute [local instance (2000)] instPowNat

namespace Literal

open Text

/-- The greatest number of digits of a whole number in a text. -/
def digitLimit : Nat := 4300

/-- Whether a whole number has few enough digits to be written. -/
def isWritable (i : Int) : Bool := i.natAbs < 10 ^ digitLimit

/-- The message for a whole number that has too many digits to be written. -/
def unwritable : String :=
  "Exceeds the limit (" ++ numeral digitLimit ++ " digits) for integer string conversion; "
    ++ "use sys.set_int_max_str_digits() to increase the limit"

/-- Why a text denotes no number. -/
inductive Fault where
  | notWhole (base : Nat) (text : Codes)
  | notFloat (text : Codes)
  | overlong (digits : Nat)
deriving DecidableEq, Repr

namespace Fault

/-- The greatest number of characters of a quoted text in the message for a whole number. -/
def quoteLimit : Nat := 200

/-- The message for a fault. -/
def message : Fault → String
  | notWhole base text =>
    "invalid literal for int() with base " ++ numeral base ++ ": "
      ++ String.ofList (text.quote.toList.take quoteLimit)
  | notFloat text => "could not convert string to float: " ++ text.quote
  | overlong digits =>
    "Exceeds the limit (" ++ numeral digitLimit
      ++ " digits) for integer string conversion: value has " ++ numeral digits
      ++ " digits; use sys.set_int_max_str_digits() to increase the limit"

end Fault

/-- Whether a text starts with a minus sign, and the text without its sign. -/
def signAndRest : List Char → Bool × List Char
  | '-' :: cs => (true, cs)
  | '+' :: cs => (false, cs)
  | cs => (false, cs)

/-! ### Whole numbers -/

/-- The value of a hexadecimal digit. -/
def hexValue? (c : Char) : Option Nat :=
  let n := c.toNat
  if 0x30 ≤ n && n ≤ 0x39 then some (n - 0x30)
  else if 0x41 ≤ n && n ≤ 0x46 then some (n - 0x37)
  else if 0x61 ≤ n && n ≤ 0x66 then some (n - 0x57)
  else none

/-- The value of a digit in a base up to sixteen. -/
def digitIn? (base : Nat) (c : Char) : Option Nat :=
  ((digit? c).or (hexValue? c)).bind (fun n => if n < base then some n else none)

/-- The letters that mark a base. -/
def marksOf (base : Nat) : List Char :=
  if base = 2 then ['b', 'B'] else if base = 8 then ['o', 'O']
  else if base = 16 then ['x', 'X'] else []

/-- The digits after the mark of a base, if there is one. -/
def unmarked (base : Nat) : List Char → List Char
  | zero :: mark :: cs =>
    if digit? zero = some 0 && (marksOf base).contains mark then cs else zero :: mark :: cs
  | cs => cs

/-- The whole number that a text denotes in a base. -/
def integer (base : Nat) (text : Codes) : Except Fault Int :=
  let (negative, cs) := signAndRest (text.chars.dropWhile isSpace)
  let cs := unmarked base cs
  let ds := cs.takeWhile (fun c => (digitIn? base c).isSome)
  let rest := cs.dropWhile (fun c => (digitIn? base c).isSome)
  if base = 10 && digitLimit < ds.length then .error (.overlong ds.length)
  else if ds.isEmpty || !rest.all isSpace then .error (.notWhole base text)
  else
    let n := ds.foldl (fun n c => base * n + (digitIn? base c).getD 0) 0
    .ok (if negative then -(n : Int) else n)

/-! ### Floating point numbers -/

/-- The power of ten that a text denotes: nothing, or a mark, an optional sign and digits. -/
def power? (isDigit : Char → Bool) : List Char → Option Int
  | [] => some 0
  | mark :: cs =>
    let (negative, ds) := signAndRest cs
    if (mark = 'e' ∨ mark = 'E') ∧ ds ≠ [] ∧ ds.all isDigit then
      some (if negative then -(decimalValue ds : Int) else decimalValue ds)
    else none

/-- The numbers `n` and `e` for which a text without a sign denotes `n * 10 ^ e`: digits with a
point among or beside them, and a power of ten. -/
def decimal? (isDigit : Char → Bool) (cs : List Char) : Option (Nat × Int) :=
  let whole := cs.takeWhile isDigit
  let (fraction, cs) : List Char × List Char :=
    match cs.dropWhile isDigit with
    | '.' :: cs => (cs.takeWhile isDigit, cs.dropWhile isDigit)
    | cs => ([], cs)
  if whole.isEmpty && fraction.isEmpty then none
  else
    (power? isDigit cs).map
      (fun e => (decimalValue (whole ++ fraction), e - (fraction.length : Int)))

/-- The words for an infinite number, in lower case. -/
def wordsForInfinity : List String := ["inf", "infinity"]

/-- The word for no number, in lower case. -/
def wordForNan : String := "nan"

/-- Lower case of an ASCII letter. -/
def lowerAscii (c : Char) : Char :=
  if 0x41 ≤ c.toNat && c.toNat ≤ 0x5A then Char.ofNat (c.toNat + 0x20) else c

/-- The floating point number that a text denotes. -/
def float (text : Codes) : Except Fault Binary64 :=
  let (negative, cs) := signAndRest (trimBy isSpace text.chars)
  let word := String.ofList (cs.map lowerAscii)
  if wordsForInfinity.contains word then .ok (.infinite negative)
  else if word = wordForNan then .ok .nan
  else
    match decimal? isDigit cs with
    | some (n, e) => .ok (.ofDecimal negative n e)
    | none => .error (.notFloat text)

end Literal

end PodTable
