import PodTable.Text.Quoted

/-!
# Texts of code points

A text given by its code points may hold surrogates, which are no characters. `Codes.string?` is
the string of a text without surrogates, and `Codes.quote` the quoted form of any text, in which
a surrogate is escaped like a character that is not printable.
-/

namespace PodTable

namespace Text

/-- A text given by its code points. -/
abbrev Codes := List Nat

namespace Codes

/-- The code points of characters. -/
def ofChars (cs : List Char) : Codes := cs.map Char.toNat

/-- The code points of a string. -/
def ofString (s : String) : Codes := ofChars s.toList

/-- Whether a code point is a surrogate. -/
def isSurrogate (n : Nat) : Bool := 0xD800 ≤ n && n ≤ 0xDFFF

/-- The characters of a text, with the null character in place of a surrogate. -/
def chars (ns : Codes) : List Char := ns.map Char.ofNat

/-- The string that a text is, unless it holds a surrogate. -/
def string? (ns : Codes) : Option String :=
  if ns.any isSurrogate then none else some (String.ofList ns.chars)

/-- The form of the code point `n` between delimiters `q`. -/
def escape (q : Char) (n : Nat) : List Char :=
  if isSurrogate n then backslash :: 'u' :: hexDigits 4 n else Text.escape q (Char.ofNat n)

/-- The quoted form of a text. -/
def quote (ns : Codes) : String :=
  let q := delimiter ns.chars
  String.ofList (q :: (ns.flatMap (escape q) ++ [q]))

/-- The order of strings is that of their code points. -/
theorem ofString_lt {s t : String} (h : s < t) :
  ofString s < ofString t
  := List.map_lt (fun _ _ => id) (String.lt_iff.mp h)

@[simp]
theorem chars_ofChars (cs : List Char) :
  (ofChars cs).chars = cs
  := by
  simp [ofChars, chars, Function.comp_def]

end Codes

/-- What stands where a text is meant: a string, code points with surrogates among them, or bytes
that encode no text. -/
inductive Wording where
  | proper (text : String)
  | broken (codes : Codes)
  | bytes
deriving DecidableEq, Repr

namespace Wording

/-- The wording with the given code points. -/
def ofCodes (ns : Codes) : Wording :=
  match ns.string? with
  | some s => proper s
  | none => broken ns

/-- The wording with the given bytes. -/
def ofBytes (bytes : ByteArray) : Wording :=
  match String.fromUTF8? bytes with
  | some s => proper s
  | none => Wording.bytes

end Wording

end Text

end PodTable
