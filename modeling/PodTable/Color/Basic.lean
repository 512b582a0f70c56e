import PodTable.Color.Names
import PodTable.Number.Literal

/-!
# Colors

A color is the default color of the terminal, one of a palette of two hundred and fifty-six, or
a mixture of red, green and blue. It is given by a text, in which case and surrounding blanks do
not count: a name, a number `color(n)`, six hexadecimal digits after a number sign, or three
decimal numbers `rgb(r,g,b)`.
-/

namespace PodTable

/-- A color. -/
inductive Color where
  | default
  | indexed (number : Fin 256)
  | mixed (red green blue : Fin 256)
deriving DecidableEq, Repr

/-- How much of the terminal's abilities a color asks for. -/
inductive ColorDepth where
  | default
  | standard
  | eightBit
  | trueColor
deriving DecidableEq, Repr

/-- Why a text is not a color. -/
inductive ColorFault where
  | unknown (text : Text.Codes)
  | notNumber (fault : Literal.Fault)
deriving DecidableEq, Repr

namespace ColorFault

/-- The message for a fault. -/
def message : ColorFault → String
  | unknown text => "unknown color " ++ text.quote
  | notNumber fault => fault.message

end ColorFault

namespace Color

/-- The lower case of a character, when that is an ASCII letter: the Kelvin sign is a capital
letter too. -/
def lower (c : Char) : Char :=
  if 0x41 ≤ c.toNat && c.toNat ≤ 0x5A then Char.ofNat (c.toNat + 0x20)
  else if c.toNat = 0x212A then 'k'
  else c

/-- A text in lower case without surrounding blanks. -/
def normal (cs : List Char) : List Char := Text.trim (cs.map lower)

/-- The text between a beginning and an end, if `cs` has both. -/
def between? (beginning ending cs : List Char) : Option (List Char) :=
  if beginning.isPrefixOf cs && ending.isSuffixOf (cs.drop beginning.length) then
    some ((cs.drop beginning.length).take (cs.length - beginning.length - ending.length))
  else none

/-- The value of a hexadecimal digit in lower case. -/
def hexValue? (c : Char) : Option Nat :=
  let n := c.toNat
  if 0x30 ≤ n && n ≤ 0x39 then some (n - 0x30)
  else if 0x61 ≤ n && n ≤ 0x66 then some (n - 0x57)
  else none

/-- The number `n` as one of two hundred and fifty-six. -/
def level? (n : Nat) : Option (Fin 256) := if h : n < 256 then some ⟨n, h⟩ else none

/-- The number `i` as one of two hundred and fifty-six. -/
def levelOfInt? (i : Int) : Option (Fin 256) := if i < 0 then none else level? i.toNat

/-- The color that six hexadecimal digits denote. -/
def ofHex? (cs : List Char) : Option Color := do
  match ← cs.mapM hexValue? with
  | [r₁, r₀, g₁, g₀, b₁, b₀] =>
    let red ← level? (16 * r₁ + r₀)
    let green ← level? (16 * g₁ + g₀)
    let blue ← level? (16 * b₁ + b₀)
    some (mixed red green blue)
  | _ => none

/-- The number that a part of a mixture denotes. -/
def numberOfPart (cs : List Char) : Except ColorFault Int :=
  (Literal.integer 10 (.ofChars cs)).mapError .notNumber

/-- Whether a character may stand between the parentheses of a mixture. -/
def isMixtureChar (c : Char) : Bool := Text.isDigit c || Text.isBlank c || c == ','

/-- The mixture of three numbers. -/
def ofNumbers? (red green blue : Int) : Option Color := do
  some (mixed (← levelOfInt? red) (← levelOfInt? green) (← levelOfInt? blue))

/-- The color that the inside of `rgb(…)` denotes, in a text given for messages. -/
def ofMixture (source : String) (cs : List Char) : Except ColorFault Color :=
  match Text.split ',' cs with
  | [red, green, blue] => do
    let red ← numberOfPart red
    let green ← numberOfPart green
    let blue ← numberOfPart blue
    match ofNumbers? red green blue with
    | some color => .ok color
    | none => .error (.unknown (.ofString source))
  | _ => .error (.unknown (.ofString source))

/-- The color that a number of one to three digits denotes. -/
def ofIndex? (cs : List Char) : Option Color :=
  if !cs.isEmpty && cs.length ≤ 3 && cs.all Text.isAsciiDigit then
    (level? (Text.decimalValue cs)).map indexed
  else none

/-- The color of a name. -/
def ofName? (cs : List Char) : Option Color :=
  ((colorNames.lookup (String.ofList cs)).bind level?).map indexed

/-- The color that a text denotes. -/
def ofText (source : String) : Except ColorFault Color :=
  let cs := normal source.toList
  if String.ofList cs = "default" then .ok default
  else
    match ofName? cs with
    | some color => .ok color
    | none =>
      match between? "#".toList [] cs, between? "color(".toList [')'] cs,
          between? "rgb(".toList [')'] cs with
      | some digits, _, _ => ((ofHex? digits).map .ok).getD (.error (.unknown (.ofString source)))
      | _, some digits, _ => ((ofIndex? digits).map .ok).getD (.error (.unknown (.ofString source)))
      | _, _, some inside =>
        if !inside.isEmpty && inside.all isMixtureChar then ofMixture source inside
        else .error (.unknown (.ofString source))
      | none, none, none => .error (.unknown (.ofString source))

/-- How much a color asks for. The first sixteen colors of the palette are standard. -/
def depth : Color → ColorDepth
  | default => .default
  | indexed n => if n.val < 16 then .standard else .eightBit
  | mixed _ _ _ => .trueColor

end Color

end PodTable
