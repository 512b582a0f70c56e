import PodTable.Text.Numeral
import PodTable.Time.Date
import PodTable.Yaml.Scalar

/-!
# Dates and times

A plain scalar may have the form of a date, or of a date with a time of day and maybe a zone.
No setting is a date, so that only the form is read, and whether there is such a date.
-/

namespace PodTable

namespace Yaml

/-- The numbers in the form of a date and a time of day. -/
structure Moment where
  year : Nat
  month : Nat
  day : Nat
  /-- Whether the month and the day have two digits. -/
  padded : Bool
  /-- The hour, the minute, the second and the distance of the zone in minutes. -/
  clock : Option (Nat × Nat × Nat × Int)
deriving DecidableEq, Repr

namespace Moment

/-- The value of digits. -/
def number (ds : List Char) : Nat := ds.foldl (fun n c => 10 * n + (c.toNat - 0x30)) 0

/-- Between `least` and `most` digits at the start, and the rest. -/
def digits? (least most : Nat) (cs : List Char) : Option (List Char × List Char) :=
  let ds := (cs.take most).takeWhile Char.isDigit
  if least ≤ ds.length then some (ds, cs.drop ds.length) else none

/-- The text after a character that has to stand at the start. -/
def after? (c : Char) : List Char → Option (List Char)
  | d :: cs => if d = c then some cs else none
  | [] => none

/-- The text after blanks. -/
def skipGap (cs : List Char) : List Char := cs.dropWhile (fun c => c == ' ' || c == '\t')

/-- The distance in minutes that a zone at the end of a text denotes. -/
def zone? (cs : List Char) : Option Int :=
  match skipGap cs with
  | [] => if cs.isEmpty then some 0 else none
  | ['Z'] => some 0
  | sign :: rest => do
    let sign : Int ← if sign = '+' then some 1 else if sign = '-' then some (-1) else none
    let (hour, rest) ← digits? 1 2 rest
    if rest.isEmpty then some (sign * 60 * number hour)
    else
      let (minute, rest) ← digits? 2 2 (← after? ':' rest)
      if rest.isEmpty then some (sign * (60 * number hour + number minute)) else none

/-- The text after the letter or the blanks between a date and a time of day. -/
def afterDate? (cs : List Char) : Option (List Char) :=
  match cs with
  | 'T' :: cs => some cs
  | 't' :: cs => some cs
  | cs => if (skipGap cs).length < cs.length then some (skipGap cs) else none

/-- The numbers of a time of day and its zone. -/
def clock? (cs : List Char) : Option (Nat × Nat × Nat × Int) := do
  let (hour, cs) ← digits? 1 2 (← afterDate? cs)
  let (minute, cs) ← digits? 2 2 (← after? ':' cs)
  let (second, cs) ← digits? 2 2 (← after? ':' cs)
  let cs := match cs with
    | '.' :: cs => cs.dropWhile Char.isDigit
    | cs => cs
  let offset ← zone? cs
  some (number hour, number minute, number second, offset)

/-- The numbers in a text with the form of a date and maybe a time of day. -/
def ofText? (cs : List Char) : Option Moment := do
  let (year, cs) ← digits? 4 4 cs
  let (month, cs) ← digits? 1 2 (← after? '-' cs)
  let (day, cs) ← digits? 1 2 (← after? '-' cs)
  let padded := month.length == 2 && day.length == 2
  let clock ← if cs.isEmpty then some none else (clock? cs).map some
  some ⟨number year, number month, number day, padded, clock⟩

/-- The text of a distance of `minutes` that is too great for a zone. -/
def offsetText (minutes : Int) : String :=
  let days := minutes / 1440
  let seconds := minutes % 1440 * 60
  "datetime.timedelta(days=" ++ Text.numeral days
    ++ (if seconds = 0 then "" else ", seconds=" ++ Text.numeral seconds) ++ ")"

/-- What is wrong with a time of day. -/
def clockFault? : Option (Nat × Nat × Nat × Int) → Option String
  | none => none
  | some (hour, minute, second, _) =>
    if 23 < hour then some "hour must be in 0..23"
    else if 59 < minute then some "minute must be in 0..59"
    else if 59 < second then some "second must be in 0..59"
    else none

/-- What is wrong with a zone. -/
def zoneFault? : Option (Nat × Nat × Nat × Int) → Option String
  | none => none
  | some (_, _, _, offset) =>
    if offset.natAbs < 1440 then none
    else
      some ("offset must be a timedelta strictly between -timedelta(hours=24) and "
        ++ "timedelta(hours=24), not " ++ offsetText offset ++ ".")

/-- What is wrong with a date. -/
def dateFault? (m : Moment) : Option String :=
  if m.year = 0 then some ("year " ++ Text.numeral m.year ++ " is out of range")
  else if m.month = 0 ∨ 12 < m.month then some "month must be in 1..12"
  else if m.day = 0 ∨ daysInMonth m.year m.month < m.day then
    some "day is out of range for month"
  else none

/-- Why there is no such date or time, if so. -/
def fault? (m : Moment) : Option String :=
  (zoneFault? m.clock).or (m.dateFault?.or (clockFault? m.clock))

end Moment

/-- A text without a line feed at its end. -/
def withoutLineFeed (cs : List Char) : List Char :=
  if cs.getLast? = some '\n' then cs.dropLast else cs

/-- Whether a text has the form of a date with two digits for month and day, or of a date with a
time of day. -/
def isMoment (cs : List Char) : Bool :=
  match Moment.ofText? cs with
  | some m => m.padded || m.clock.isSome
  | none => false

end Yaml

end PodTable
