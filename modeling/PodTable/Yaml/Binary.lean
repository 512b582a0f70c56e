import PodTable.Text.Codes

/-!
# Binary data

Binary data is written in sixty-four characters of six bits each, in groups of four that make up
three bytes. Other characters count for nothing. The last group may be short, and is then filled
with equals signs.
-/

namespace PodTable

-- Powers are those of natural numbers, whatever other instances a module imports.
attribute [local instance (2000)] instPowNat

namespace Yaml

/-- The six bits that a character stands for. -/
def sixBits? (c : Char) : Option Nat :=
  let n := c.toNat
  if 0x41 ≤ n && n ≤ 0x5A then some (n - 0x41)
  else if 0x61 ≤ n && n ≤ 0x7A then some (n - 0x61 + 26)
  else if 0x30 ≤ n && n ≤ 0x39 then some (n - 0x30 + 52)
  else if c == '+' then some 62
  else if c == '/' then some 63
  else none

/-- The bytes of a text, read after `place` characters of a group, which leave `left` bits of
value `carry`, and after `filled` equals signs. -/
def bytesFrom? (place carry filled : Nat) : List Char → Option (List UInt8)
  | [] => if place = 0 then some [] else none
  | c :: cs =>
    if c == '=' then
      if 2 ≤ place && 4 ≤ place + filled + 1 then some []
      else bytesFrom? place carry (if 2 ≤ place then filled + 1 else filled) cs
    else
      match sixBits? c with
      | none => bytesFrom? place carry filled cs
      | some n =>
        let byte (m : Nat) := (bytesFrom? ((place + 1) % 4) (n % 2 ^ (6 - 2 * place)) 0 cs).map
          (m.toUInt8 :: ·)
        match place with
        | 0 => bytesFrom? 1 n 0 cs
        | 1 => byte (carry * 4 + n / 16)
        | 2 => byte (carry * 16 + n / 4)
        | _ => byte (carry * 64 + n)

/-- The bytes that a text stands for. -/
def bytes? (text : Text.Codes) : Option ByteArray :=
  if text.all (· < 0x80) then
    (bytesFrom? 0 0 0 text.chars).map (fun bytes => ⟨bytes.toArray⟩)
  else none

end Yaml

end PodTable
