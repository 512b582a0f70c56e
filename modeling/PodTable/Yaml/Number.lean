import PodTable.Number.Arithmetic
import PodTable.Text.Case
import PodTable.Yaml.Defect

/-!
# Numbers

The value of a scalar that is a number by its form or by its tag. Underscores in a number count for
nothing. A whole number is written in base ten, two, eight or sixteen, or in base sixty with
colons between its places, and a floating point number in base ten or sixty. The first characters
name the base, and what follows them is read as far as it denotes a number there.
-/

namespace PodTable

-- Powers are those of natural numbers, whatever other instances a module imports.
attribute [local instance (2000)] instPowNat

namespace Yaml

open Text (Codes)

/-- A text without underscores. -/
def ungrouped (ns : Codes) : Codes := ns.filter (· != '_'.toNat)

/-- Whether a text starts with a minus sign, and the text without its sign. -/
def signAndRest (ns : Codes) : Bool × Codes :=
  match ns with
  | [] => (false, [])
  | n :: rest =>
    if n = '-'.toNat then (true, rest) else if n = '+'.toNat then (false, rest) else (false, ns)

/-- The parts of a text between colons. -/
def places (ns : Codes) : List Codes := Text.split ':'.toNat ns

/-! ### Whole numbers -/

/-- The whole number that a text denotes in a base, or why it denotes none. -/
def integerIn (base : Nat) (ns : Codes) : Except Defect Int :=
  (Literal.integer base ns).mapError .noNumber

/-- The number with the given places in base sixty. -/
def sexagesimal (is : List Int) : Int := is.foldl (fun n i => 60 * n + i) 0

/-- The whole number without a sign that a text denotes. -/
def unsignedInteger (ns : Codes) : Except Defect Int :=
  match ns.chars with
  | [] => .error .noDigits
  | ['0'] => .ok 0
  | '0' :: 'b' :: _ => integerIn 2 (ns.drop 2)
  | '0' :: 'x' :: _ => integerIn 16 (ns.drop 2)
  | '0' :: _ => integerIn 8 ns
  | cs =>
    if cs.contains ':' then ((places ns).mapM (integerIn 10)).map sexagesimal
    else integerIn 10 ns

/-- The whole number that a text denotes. -/
def integer (text : Codes) : Except Defect Int :=
  let ns := ungrouped text
  if ns.isEmpty then .error .noDigits
  else
    let (negative, ns) := signAndRest ns
    (unsignedInteger ns).map (fun i => if negative then -i else i)

/-! ### Floating point numbers -/

/-- The floating point number that a text denotes, or why it denotes none. -/
def floatIn (ns : Codes) : Except Defect Binary64 := (Literal.float ns).mapError .noNumber

/-- The sum `x` with a place `y` in base sixty, before which there are `n` others from the right.
A power of sixty that is greater than any floating point number counts nothing. -/
def addPlace (x : Binary64) (y : Binary64) (n : Nat) : Except Defect Binary64 :=
  let power := Binary64.ofInt (60 ^ n)
  if power.isFinite then .ok (x.add (y.mul power)) else .error .oversizedPower

/-- The floating point number with the given places in base sixty, summed up from the right. -/
def sexagesimalFloat (xs : List Binary64) : Except Defect Binary64 :=
  xs.reverse.zipIdx.foldlM (fun x (y, n) => addPlace x y n) .zero

/-- The word for an infinite number. -/
def wordForInfinity : List Char := ['.', 'i', 'n', 'f']

/-- The word for no number. -/
def wordForNan : List Char := ['.', 'n', 'a', 'n']

/-- The floating point number without a sign that a text in lower case denotes. -/
def unsignedFloat (ns : Codes) : Except Defect Binary64 :=
  let cs := ns.chars
  if cs = wordForInfinity then .ok (.infinite false)
  else if cs = wordForNan then .ok .nan
  else if cs.contains ':' then ((places ns).mapM floatIn).bind sexagesimalFloat
  else floatIn ns

/-- The floating point number that a text denotes. -/
def float (text : Codes) : Except Defect Binary64 :=
  let ns := Text.lower (ungrouped text)
  if ns.isEmpty then .error .noDigits
  else
    let (negative, ns) := signAndRest ns
    (unsignedFloat ns).map (fun x => if negative then x.negate else x)

end Yaml

end PodTable
