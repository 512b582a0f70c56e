import PodTable.Checked.Integer
import PodTable.Text.Codes

/-!
# Readers of scalar fields

A text field takes a text and nothing else. A whole number may also be given as a truth value,
as a floating point number without fraction, or as a text. A truth value may be given as zero or
one, or as one of twelve words in any case.
-/

namespace PodTable

-- Powers are those of natural numbers, whatever other instances a module imports.
attribute [local instance (2000)] instPowNat

namespace Checked

/-- Read a text. -/
def text : Document → Checked String
  | .text s => sound s
  | _ => fault .notText

/-- Read a whole number from a floating point number. -/
def integerOfFloat (x : Binary64) : Checked Int :=
  match x with
  | .finite _ _ =>
    match x.toInt? with
    | some i => if i.natAbs < 2 ^ (63 : Nat) then sound i else fault .oversizedInteger
    | none => fault .fractionalInteger
  | _ => fault .infiniteInteger

/-- Read a whole number. -/
def integer : Document → Checked Int
  | .int i => sound i
  | .bool b => sound (if b then 1 else 0)
  | .float x => integerOfFloat x
  | .text s => integerOfText s
  | _ => fault .notInteger

/-- Read a whole number that is not negative. -/
def count (d : Document) : Checked Nat :=
  (integer d).andThen (fun i => if i < 0 then fault .belowMinimum else sound i.toNat)

/-- The words for truth, in lower case. -/
def wordsForTrue : List String := ["1", "on", "t", "true", "y", "yes"]

/-- The words for falsehood, in lower case. -/
def wordsForFalse : List String := ["0", "off", "f", "false", "n", "no"]

/-- Read a truth value from a whole number. -/
def flagOfInt (i : Int) : Checked Bool :=
  if i = 0 then sound false else if i = 1 then sound true else fault .unreadableFlag

/-- Read a truth value from a word. -/
def flagOfText (s : String) : Checked Bool :=
  let w := String.ofList (s.toList.map Literal.lowerAscii)
  if wordsForTrue.contains w then sound true
  else if wordsForFalse.contains w then sound false
  else fault .unreadableFlag

/-- Read a truth value from a wording. -/
def flagOfWording : Text.Wording → Checked Bool
  | .proper s => flagOfText s
  | .broken _ => fault .brokenText
  | .bytes => fault .unreadableFlag

/-- Read a truth value, given how it is read from a text. Numbers of more than sixty-three bits are
not even read as numbers. -/
def flagBy {τ : Type} (ofText : τ → Checked Bool) : Document τ → Checked Bool
  | .bool b => sound b
  | .int i => if -2 ^ (63 : Nat) ≤ i ∧ i < 2 ^ (63 : Nat) then flagOfInt i else fault .notFlag
  | .float x =>
    match x.toInt? with
    | some i => if i.natAbs < 2 ^ (63 : Nat) then flagOfInt i else fault .notFlag
    | none => fault .notFlag
  | .text t => ofText t
  | _ => fault .notFlag

/-- Read a truth value. -/
def flag : Document → Checked Bool := flagBy flagOfText

end Checked

end PodTable
