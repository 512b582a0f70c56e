import PodTable.Yaml.Moment

/-!
# Kinds of plain scalars

A plain scalar without a tag may be null, a truth value, a whole or a floating point number, a
date or a time, or one of two marks in a mapping. If it has none of their forms, it is a text. A
line feed after one of these forms does not count, but it makes an empty text a text.
-/

namespace PodTable

namespace Yaml

/-- The words for truth. -/
def wordsForTrue : List String :=
  ["yes", "Yes", "YES", "true", "True", "TRUE", "on", "On", "ON"]

/-- The words for falsehood. -/
def wordsForFalse : List String :=
  ["no", "No", "NO", "false", "False", "FALSE", "off", "Off", "OFF"]

/-- The words for null. -/
def wordsForNull : List String := ["", "~", "null", "Null", "NULL"]

/-- A numeral without its sign. -/
def unsigned : List Char → List Char
  | '+' :: cs => cs
  | '-' :: cs => cs
  | cs => cs

/-- Whether a character is a digit or an underscore between digits. -/
def isNumeralChar (c : Char) : Bool := c.isDigit || c == '_'

/-- Whether a text is a number below sixty in one or two digits. -/
def isSixtieth : List Char → Bool
  | [c] => c.isDigit
  | [b, c] => '0' ≤ b && b ≤ '5' && c.isDigit
  | _ => false

/-- Whether a text is a numeral that starts with a digit other than zero, in base ten or, with
colons between the places, in base sixty. -/
def isDecimal (cs : List Char) : Bool :=
  match Text.split ':' cs with
  | (d :: ds) :: places =>
    d.isDigit && d != '0' && ds.all isNumeralChar && places.all isSixtieth
  | _ => false

/-- Whether a text has the form of a whole number. -/
def isInteger (cs : List Char) : Bool :=
  match unsigned cs with
  | ['0'] => true
  | '0' :: 'b' :: ds => !ds.isEmpty && ds.all (fun c => c == '0' || c == '1' || c == '_')
  | '0' :: 'x' :: ds => !ds.isEmpty && ds.all (fun c => (Literal.hexValue? c).isSome || c == '_')
  | '0' :: ds => ds.all (fun c => ('0' ≤ c && c ≤ '7') || c == '_')
  | ds => isDecimal ds

/-- Whether a text is empty or a power of ten with its sign. -/
def isExponent : List Char → Bool
  | [] => true
  | mark :: sign :: ds =>
    (mark == 'e' || mark == 'E') && (sign == '+' || sign == '-') && !ds.isEmpty
      && ds.all Char.isDigit
  | _ => false

/-- Whether a text has the form of a fraction after the point of a number. -/
def isFraction (cs : List Char) : Bool := isExponent (cs.dropWhile isNumeralChar)

/-- Whether a text has the form of an infinite number or of none. -/
def isUnbounded (cs : List Char) : Bool :=
  [".inf", ".Inf", ".INF"].contains (String.ofList (unsigned cs))
    || [".nan", ".NaN", ".NAN"].contains (String.ofList cs)

/-- Whether a text has the form of a floating point number with digits before the point. -/
def isPointed (cs : List Char) : Bool :=
  let fraction := (cs.dropWhile (· != '.')).drop 1
  cs.contains '.' &&
    match Text.split ':' (cs.takeWhile (· != '.')) with
    | (d :: ds) :: places =>
      d.isDigit && ds.all isNumeralChar && places.all isSixtieth
        && (if places.isEmpty then isFraction fraction else fraction.all isNumeralChar)
    | _ => false

/-- Whether a text has the form of a floating point number. -/
def isFloat (cs : List Char) : Bool :=
  isUnbounded cs || isPointed (unsigned cs)
    || match cs with
      | '.' :: d :: ds => d.isDigit && isFraction ds
      | _ => false

/-- The indicators that would be scalars of a kind of their own if a plain scalar could start with
them. -/
def indicatorWords : List String := ["!", "&", "*"]

/-- The kinds of nodes. -/
inductive Tag where
  | null
  | flag
  | integer
  | float
  | moment
  | binary
  | text
  | sequence
  | mapping
  | set
  | pairs
  | orderedMapping
  | merge
  | value
  | unknown
deriving DecidableEq, Repr

namespace Tag

/-- The kind of a plain scalar without a tag that does not end with a line feed. -/
def ofLine (cs : List Char) : Tag :=
  let text := String.ofList cs
  if wordsForNull.contains text then null
  else if wordsForTrue.contains text || wordsForFalse.contains text then flag
  else if isFloat cs then float
  else if isInteger cs then integer
  else if isMoment cs then moment
  else if text = "<<" then merge
  else if text = "=" then value
  else if indicatorWords.contains text then unknown
  else Tag.text

/-- The kind of a plain scalar without a tag. -/
def ofPlain (cs : List Char) : Tag :=
  if cs = ['\n'] then Tag.text else ofLine (withoutLineFeed cs)

/-- The names of the kinds that have one. -/
def names : List (String × Tag) :=
  [ ("null", null),
    ("bool", flag),
    ("int", integer),
    ("float", float),
    ("timestamp", moment),
    ("binary", binary),
    ("str", text),
    ("seq", sequence),
    ("map", mapping),
    ("set", set),
    ("pairs", pairs),
    ("omap", orderedMapping),
    ("merge", merge),
    ("value", value) ]

/-- What the names of the kinds begin with when they are written in full. -/
def family : String := "tag:yaml.org,2002:"

/-- The kind that a tag written in full stands for. -/
def ofName (name : String) : Tag :=
  ((names.find? (fun n => family ++ n.1 == name)).map Prod.snd).getD unknown

end Tag

end Yaml

end PodTable
