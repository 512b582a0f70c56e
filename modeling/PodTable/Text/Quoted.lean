import PodTable.Text.Numeral
import PodTable.Text.Printable

/-!
# Quoted texts

A quoted text stands between apostrophes, or between quotation marks when it holds an
apostrophe and no quotation mark. The backslash, the delimiter and the characters that are not
printable are escaped, so a quoted text is a single line of printable characters.
-/

namespace PodTable

namespace Text

/-- The apostrophe. -/
def apostrophe : Char := Char.ofNat 0x27

/-- The quotation mark. -/
def quotationMark : Char := Char.ofNat 0x22

/-- The backslash. -/
def backslash : Char := Char.ofNat 0x5C

/-- The character that stands at both ends of the quoted form of `cs`. -/
def delimiter (cs : List Char) : Char :=
  if cs.contains apostrophe && !cs.contains quotationMark then quotationMark else apostrophe

/-- The form of the character `c` between delimiters `q`. -/
def escape (q c : Char) : List Char :=
  if c == q || c == backslash then [backslash, c]
  else if c == '\n' then [backslash, 'n']
  else if c == '\r' then [backslash, 'r']
  else if c == '\t' then [backslash, 't']
  else if isPrintable c then [c]
  else if c.toNat < 0x100 then backslash :: 'x' :: hexDigits 2 c.toNat
  else if c.toNat < 0x10000 then backslash :: 'u' :: hexDigits 4 c.toNat
  else backslash :: 'U' :: hexDigits 8 c.toNat

/-- The quoted form of a text. -/
def quoteChars (cs : List Char) : List Char :=
  let q := delimiter cs
  q :: (cs.flatMap (escape q) ++ [q])

/-- The quoted form of a string. -/
def quote (s : String) : String := String.ofList (quoteChars s.toList)

end Text

end PodTable
