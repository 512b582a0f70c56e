/-!
# Blank characters

`Text.isSpace` is the white space of the Unicode character database. `Text.isBlank` adds the
four information separators U+001C to U+001F, which count as blank around quantities, statuses
and colors. `Text.trimBy` removes the characters of a class from both ends of a text.
-/

namespace PodTable

namespace Text

/-- Whether `c` is white space in the sense of the Unicode property of that name. -/
def isSpace (c : Char) : Bool :=
  let n := c.toNat
  (9 ≤ n && n ≤ 13) || n == 0x20 || n == 0x85 || n == 0xA0 || n == 0x1680
    || (0x2000 ≤ n && n ≤ 0x200A) || n == 0x2028 || n == 0x2029 || n == 0x202F
    || n == 0x205F || n == 0x3000

/-- Whether `c` is white space or an information separator. -/
def isBlank (c : Char) : Bool :=
  isSpace c || (0x1C ≤ c.toNat && c.toNat ≤ 0x1F)

theorem isBlank_of_isSpace {c : Char} (h : isSpace c = true) :
  isBlank c = true
  := by
  simp [isBlank, h]

/-- The text `cs` without the characters of the class `p` at its two ends. -/
def trimBy {α : Type} (p : α → Bool) (cs : List α) : List α :=
  ((cs.dropWhile p).reverse.dropWhile p).reverse

/-- The text `cs` without surrounding blank characters. -/
def trim (cs : List Char) : List Char := trimBy isBlank cs

/-- The string `s` without surrounding blank characters. -/
def strip (s : String) : String := String.ofList (trim s.toList)

@[simp]
theorem trimBy_nil {α : Type} (p : α → Bool) :
  trimBy p [] = []
  := rfl

end Text

end PodTable
