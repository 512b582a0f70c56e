import PodTable.Document
import PodTable.Number.Literal
import PodTable.Number.Precision
import PodTable.Quantity.Spelling

/-!
# Quantities

A quantity is an amount of a resource. It is given as a number or as a text, and has a decimal
value: cores or bytes. A number, and a text without a scale, has its exact value. A suffix and a
power of ten are applied in the standard precision.

`Quantity.millicores` and `Quantity.bytes` round the value up to whole units, which have to fit
a signed word of sixty-four bits.

A power of ten is read from at most `Literal.digitLimit` digits. The functions whose names end in
`Within` read quantities within another limit on these digits, or within none.
-/

namespace PodTable

-- Powers are those of natural numbers, whatever other instances a module imports.
attribute [local instance (2000)] instPowNat

namespace Quantity

/-- Why a document is not a usable quantity. -/
inductive Refusal where
  | invalid (source : Document)
  | tooLarge (source : Document)
  | overlong (digits : Nat)
  | unrepresentable (value : Decimal)

namespace Refusal

/-- The message for a refusal. -/
def message : Refusal → String
  | invalid source => "invalid quantity: " ++ source.literal
  | tooLarge source => "quantity out of range: " ++ source.literal
  | overlong digits => (Literal.Fault.overlong digits).message
  | unrepresentable value => "quantity out of range: " ++ value.text

end Refusal

/-- The power of ten that a sign and digits denote. -/
def exponentValue (sign : Sign) (digits : List Char) : Int :=
  match sign with
  | .minus => -(Text.decimalValue digits : Int)
  | _ => Text.decimalValue digits

/-- The value of a written quantity, unless it is too large. -/
def Spelling.value? (q : Spelling) : Option Decimal :=
  match q.scale with
  | .unit => some q.number
  | .suffix s => Precision.standard.multiply q.number s.multiplier.1 s.multiplier.2
  | .power _ sign digits => Precision.standard.shift q.number (exponentValue sign digits)

/-- The number of digits of a power of ten, if they are more than a limit. -/
def Scale.overlong? (limit : Option Nat) : Scale → Option Nat
  | .power _ _ digits => if limit.any (· < digits.length) then some digits.length else none
  | _ => none

/-- The value of a quantity given as a text. -/
def ofTextWithin (limit : Option Nat) (s : String) : Except Refusal Decimal :=
  match Spelling.ofText? (Text.trim s.toList) with
  | none => .error (.invalid (.text s))
  | some q =>
    match q.scale.overlong? limit, q.value? with
    | some n, _ => .error (.overlong n)
    | none, none => .error (.tooLarge (.text s))
    | none, some d => .ok d

/-- The value of a quantity. -/
def valueWithin (limit : Option Nat) : Document → Except Refusal Decimal
  | .int i => .ok (Decimal.ofInt i)
  | .float (.finite negative x) => .ok (Binary64.layoutOf negative x).value
  | .text s => ofTextWithin limit s
  | source => .error (.invalid source)

/-- Whether an integer fits a signed word of sixty-four bits. -/
def fitsWord (i : Int) : Bool := -(2 ^ (63 : Nat)) ≤ i && i < 2 ^ (63 : Nat)

/-- The least integer that is at least the value of a decimal number. -/
def ceil (d : Decimal) : Int :=
  let n := d.coefficient * 10 ^ d.exponent.toNat
  let q := 10 ^ (-d.exponent).toNat
  if d.negative then -(n / q : Nat) else ceilQuotient n q

/-- The value of `d` rounded up to an integer, if that fits a word. Values far from any word,
and values far below one, are decided by the exponent of their leading digit. -/
def wordCeil? (d : Decimal) : Option Int :=
  if d.coefficient = 0 then some 0
  else if 20 ≤ d.adjusted then none
  else if d.adjusted < -1 then some (if d.negative then 0 else 1)
  else if fitsWord (ceil d) then some (ceil d) else none

/-- The value of `d` in units of `1 / scale`, rounded up to a whole number. -/
def units (scale : Nat) (d : Decimal) : Except Refusal Int :=
  match (Precision.standard.multiply d scale 0).bind wordCeil? with
  | some i => .ok i
  | none => .error (.unrepresentable d)

/-- An amount of processing, in thousandths of a core. -/
def millicoresWithin (limit : Option Nat) (source : Document) : Except Refusal Int :=
  (valueWithin limit source).bind (units 1000)

/-- An amount of memory, in bytes. -/
def bytesWithin (limit : Option Nat) (source : Document) : Except Refusal Int :=
  (valueWithin limit source).bind (units 1)

/-- The value of a quantity. -/
def value : Document → Except Refusal Decimal := valueWithin (some Literal.digitLimit)

/-- An amount of processing, in thousandths of a core. -/
def millicores : Document → Except Refusal Int := millicoresWithin (some Literal.digitLimit)

/-- An amount of memory, in bytes. -/
def bytes : Document → Except Refusal Int := bytesWithin (some Literal.digitLimit)

end Quantity

end PodTable
