import Mathlib.Data.Int.Notation
import PodTable.Proofs.Text.Digits
import PodTable.Proofs.Time.Calendar
import PodTable.Time.Reading

/-!
# Texts of moments

A moment is written as a date, or as a date and a time of day, maybe with seconds, a fraction of one
and a zone. The relations here are the layouts, each with what the text stands for: a date, a number
of microseconds, the minutes that a zone is ahead of universal time, and at last a point in time. The
texts that are read as moments are those that are written in the layouts, and the timestamp that is
read of one is of the same point in time.
-/

namespace PodTable

namespace Timestamp

/-! ### Layouts -/

/-- Two digits denote a number below a limit. -/
def TwoDigits (limit : ℕ) (cs : List Char) (n : ℕ) : Prop := twoDigits? cs = some n ∧ n < limit

/-- The text of a date. -/
inductive DateText : List Char → Date → Prop
  | parts {cs ys ms ds : List Char} {century year : ℕ} {date : Date}
      (hcentury : TwoDigits 100 cs century) (hyear : TwoDigits 100 ys year)
      (hdate : date.year = 100 * century + year)
      (hmonth : TwoDigits 100 ms date.month) (hday : TwoDigits 100 ds date.day) :
      DateText (cs ++ ys ++ '-' :: ms ++ '-' :: ds) date

/-- The text of the seconds after the minutes of a time of day, and their number in microseconds.
Parts of a microsecond are cut off. -/
inductive SecondsText : List Char → ℕ → Prop
  | none : SecondsText [] 0
  | whole {ss : List Char} {second : ℕ} (hsecond : TwoDigits 60 ss second) :
      SecondsText (':' :: ss) (second * 1000000)
  | fraction {ss ds : List Char} {second : ℕ} {point : Char} (hsecond : TwoDigits 60 ss second)
      (hpoint : point = '.' ∨ point = ',') (hne : ds ≠ [])
      (hdigits : ds.all Text.isAsciiDigit = true) :
      SecondsText (':' :: ss ++ point :: ds)
        (second * 1000000 + Text.decimalValue ds * 1000000 / 10 ^ ds.length)

/-- The text of a zone, and the minutes that it is ahead of universal time. Universal time may go
without saying. -/
inductive ZoneText : List Char → ℤ → Prop
  | none : ZoneText [] 0
  | universal {mark : Char} (hmark : mark = 'Z' ∨ mark = 'z') : ZoneText [mark] 0
  | ahead {hs ms colon : List Char} {hour minute : ℕ} (hhour : TwoDigits 24 hs hour)
      (hcolon : colon = [':'] ∨ colon = []) (hminute : TwoDigits 60 ms minute) :
      ZoneText ('+' :: hs ++ colon ++ ms) (hour * 60 + minute)
  | behind {hs ms colon : List Char} {hour minute : ℕ} {mark : Char}
      (hmark : mark = '-' ∨ mark = minusSign) (hhour : TwoDigits 24 hs hour)
      (hcolon : colon = [':'] ∨ colon = []) (hminute : TwoDigits 60 ms minute) :
      ZoneText (mark :: hs ++ colon ++ ms) (-(hour * 60 + minute))

section

variable {cs rest : List Char} {n limit : ℕ}

/-- Two digits are two characters. -/
theorem exists_of_twoDigits? (h : twoDigits? cs = some n) :
  ∃ a b, cs = [a, b] ∧ Text.isAsciiDigit a = true ∧ Text.isAsciiDigit b = true
  := by
  unfold twoDigits? at h
  split at h
  · rename_i a b
    simp only [Option.ite_none_right_eq_some, Bool.and_eq_true] at h
    exact ⟨a, b, rfl, h.1⟩
  · cases h

/-- Two digits denote a number below a hundred. -/
theorem twoDigits_of_twoDigits? (h : twoDigits? cs = some n) :
  TwoDigits 100 cs n
  := by
  obtain ⟨a, b, rfl, ha, hb⟩ := exists_of_twoDigits? h
  refine ⟨h, ?_⟩
  simp only [twoDigits?, ha, hb, Bool.and_self, if_true, Option.some.injEq] at h
  rw [← h]
  exact Text.decimalValue_lt [a, b]

theorem TwoDigits.exists (h : TwoDigits limit cs n) :
  ∃ a b, cs = [a, b] ∧ twoDigits? [a, b] = some n ∧ n < limit
  := by
  obtain ⟨a, b, rfl, -, -⟩ := exists_of_twoDigits? h.1
  exact ⟨a, b, rfl, h⟩

/-- The microseconds of a fraction are its value in microseconds without parts of one. -/
theorem microsecondsOfFraction_eq (ds : List Char) :
  microsecondsOfFraction ds = Text.decimalValue ds * 1000000 / 10 ^ ds.length
  := by
  have hsplit := Text.decimalValue_append (ds.take 6) (ds.drop 6)
  have hlt := Text.decimalValue_lt (ds.drop 6)
  rw [List.take_append_drop] at hsplit
  simp only [microsecondsOfFraction, List.length_take]
  rcases le_total ds.length 6 with hshort | hlong
  · have hpow : 10 ^ (6 - ds.length) * 10 ^ ds.length = 1000000 := by
      rw [← pow_add, Nat.sub_add_cancel hshort]
      rfl
    rw [List.take_of_length_le hshort, Nat.min_eq_right hshort, ← hpow, ← mul_assoc,
      Nat.mul_div_cancel _ (Nat.pow_pos (by decide))]
  · have hpow : 10 ^ ds.length = 10 ^ (ds.drop 6).length * 1000000 := by
      have hsix : 1000000 = 10 ^ 6 := rfl
      rw [List.length_drop, hsix, ← pow_add, Nat.sub_add_cancel hlong]
    have hpos : 0 < 10 ^ (ds.drop 6).length := Nat.pow_pos (by decide)
    rw [Nat.min_eq_left hlong, hsplit, hpow, Nat.mul_div_mul_right _ _ (by decide), Nat.sub_self,
      pow_zero, mul_one, mul_comm (Text.decimalValue _) (10 ^ _), Nat.mul_add_div hpos,
      Nat.div_eq_of_lt hlt, add_zero]

end

/-! ### Dates -/

/-- The parts of a date make the date, and no other. -/
theorem make?_eq_some_iff {year month day : ℕ} {date : Date} :
  Date.make? year month day = some date ↔ date.year = year ∧ date.month = month ∧ date.day = day
  := by
  constructor
  · intro h
    simp only [Date.make?, Option.dite_none_right_eq_some, Option.some.injEq] at h
    obtain ⟨-, rfl⟩ := h
    exact ⟨rfl, rfl, rfl⟩
  · rintro ⟨rfl, rfl, rfl⟩
    obtain ⟨_, _, _, hyear, hyear', hmonth, hmonth', hday, hday'⟩ := date
    rw [Date.make?, dif_pos ⟨⟨hyear, hyear'⟩, ⟨hmonth, hmonth'⟩, hday, hday'⟩]

variable {cs zs ss rest : List Char} {i : Instant} {t : Timestamp}

/-- A date that is written is read, from ten characters. -/
theorem DateText.dateParts? {date : Date} (h : DateText cs date) :
  cs.length = 10 ∧ dateParts? cs = some (date.year, date.month, date.day)
  := by
  obtain ⟨hcentury, hyear, hdate, hmonth, hday⟩ := h
  obtain ⟨y₁, y₂, rfl, hcentury, -⟩ := hcentury.exists
  obtain ⟨y₃, y₄, rfl, hyear, -⟩ := hyear.exists
  obtain ⟨m₁, m₂, rfl, hmonth, -⟩ := hmonth.exists
  obtain ⟨d₁, d₂, rfl, hday, -⟩ := hday.exists
  refine ⟨rfl, ?_⟩
  have hexists : Date.exists? date.year date.month date.day = true := by
    simp [Date.exists?, date.month_pos, date.month_le, date.day_pos, date.day_le]
  rw [hdate] at hexists
  simp only [Timestamp.dateParts?, List.cons_append, List.nil_append, hcentury, hyear, hmonth, hday,
    Option.bind_eq_bind, Option.bind_some, hexists, if_true, hdate]

/-! ### Times of day -/

/-- A zone is so many minutes ahead of universal time. -/
def IsAhead (o : Option Offset) (minutes : ℤ) : Prop :=
  (o.map Offset.microseconds).getD 0 = minutes * 60000000

theorem isAhead_some_iff {o : Offset} {minutes : ℤ} :
  IsAhead (some o) minutes ↔ o.microseconds = minutes * 60000000
  := Iff.rfl

theorem isAhead_none :
  IsAhead none 0
  := (zero_mul 60000000).symm

theorem isAhead_zero :
  IsAhead (some .zero) 0
  := isAhead_some_iff.mpr (zero_mul 60000000).symm

theorem ofMinutes?_eq_some {minutes : ℤ} (hlow : -1440 < minutes) (hhigh : minutes < 1440) :
  ∃ o, Offset.ofMinutes? minutes = some o ∧ IsAhead (some o) minutes
  := ⟨_, dif_pos ⟨hlow, hhigh⟩, isAhead_some_iff.mpr rfl⟩

theorem bounds_of_ofMinutes? {minutes : ℤ} {o : Offset} (h : Offset.ofMinutes? minutes = some o) :
  (-1440 < minutes ∧ minutes < 1440) ∧ IsAhead (some o) minutes
  := by
  simp only [Offset.ofMinutes?, Option.dite_none_right_eq_some, Option.some.injEq] at h
  obtain ⟨hbounds, rfl⟩ := h
  exact ⟨hbounds, isAhead_some_iff.mpr rfl⟩

/-- A zone that is read of a sign, an hour and a minute is written so. -/
theorem zoneText_of_shift {mark : Char} {hs ms colon : List Char} {negative : Bool}
    {o : Option Offset}
    (hmark : (mark = '-' ∨ mark = minusSign) ∧ negative = true ∨ mark = '+' ∧ negative = false)
    (hcolon : colon = [':'] ∨ colon = [])
    (h : (twoDigits? hs).bind (fun hour => (twoDigits? ms).bind (fun minute =>
      if minute < 60 then
        (Offset.ofMinutes?
          (if negative = true then -(hour * 60 + minute) else hour * 60 + minute)).map some
      else none)) = some o) :
  ∃ ahead, ZoneText (mark :: hs ++ colon ++ ms) ahead ∧ IsAhead o ahead
  := by
  simp only [Option.bind_eq_some_iff, Option.ite_none_right_eq_some, Option.map_eq_some_iff] at h
  obtain ⟨hour, hhour, minute, hminute, hlt, offset, hoffset, rfl⟩ := h
  obtain ⟨hbounds, hahead⟩ := bounds_of_ofMinutes? hoffset
  rcases hmark with ⟨hmark, rfl⟩ | ⟨rfl, rfl⟩
  · simp only [if_true] at hbounds hahead
    exact ⟨_, .behind hmark ⟨hhour, by omega⟩ hcolon ⟨hminute, hlt⟩, hahead⟩
  · simp only [Bool.false_eq_true, if_false] at hbounds hahead
    exact ⟨_, .ahead ⟨hhour, by omega⟩ hcolon ⟨hminute, hlt⟩, hahead⟩

/-- A zone that is read is written so. -/
theorem zoneText_of_offsetOfText? {o : Option Offset} (h : offsetOfText? cs = some o) :
  ∃ ahead, ZoneText cs ahead ∧ IsAhead o ahead
  := by
  unfold offsetOfText? at h
  split at h
  · cases h
    exact ⟨0, .none, isAhead_none⟩
  · cases h
    exact ⟨0, .universal (.inl rfl), isAhead_zero⟩
  · cases h
    exact ⟨0, .universal (.inr rfl), isAhead_zero⟩
  · simp only [Option.bind_eq_bind, Option.bind_some, Option.bind_none] at h
    split at h
    · rename_i hmark
      split at h
      · exact zoneText_of_shift (.inl ⟨hmark, rfl⟩) (.inl rfl) h
      · exact zoneText_of_shift (.inl ⟨hmark, rfl⟩) (.inr rfl) h
      · cases h
    split at h
    · rename_i hmark
      split at h
      · exact zoneText_of_shift (.inr ⟨hmark, rfl⟩) (.inl rfl) h
      · exact zoneText_of_shift (.inr ⟨hmark, rfl⟩) (.inr rfl) h
      · cases h
    · cases h

/-- A zone that is written by a sign, an hour and a minute is read. -/
theorem exists_of_shift {mark : Char} {hs ms colon : List Char} {hour minute : ℕ} {ahead : ℤ}
    (hmark : (mark = '-' ∨ mark = minusSign) ∧ ahead = -(hour * 60 + minute)
      ∨ mark = '+' ∧ ahead = hour * 60 + minute)
    (hhour : TwoDigits 24 hs hour) (hcolon : colon = [':'] ∨ colon = [])
    (hminute : TwoDigits 60 ms minute) :
  ∃ o, offsetOfText? (mark :: hs ++ colon ++ ms) = some o ∧ IsAhead o ahead
  := by
  obtain ⟨a, b, rfl, hhour, hlt⟩ := hhour.exists
  obtain ⟨c, d, rfl, hminute, hlt'⟩ := hminute.exists
  have hlow : -1440 < ahead := by omega
  have hhigh : ahead < 1440 := by omega
  obtain ⟨o, hoffset, hahead⟩ := ofMinutes?_eq_some hlow hhigh
  refine ⟨some o, ?_, hahead⟩
  rcases hmark with ⟨hmark, rfl⟩ | ⟨rfl, rfl⟩
  · rcases hcolon with rfl | rfl
    · simp [offsetOfText?, hmark, hhour, hminute, hlt', hoffset, -neg_add_rev]
    · simp [offsetOfText?, hmark, hhour, hminute, hlt', hoffset, -neg_add_rev]
  · rcases hcolon with rfl | rfl
    · simp [offsetOfText?, hhour, hminute, hlt', hoffset, minusSign]
    · simp [offsetOfText?, hhour, hminute, hlt', hoffset, minusSign]

/-- A zone that is written is read. -/
theorem ZoneText.exists_offset {ahead : ℤ} (h : ZoneText cs ahead) :
  ∃ o, offsetOfText? cs = some o ∧ IsAhead o ahead
  := by
  cases h with
  | none => exact ⟨Option.none, rfl, isAhead_none⟩
  | universal hmark =>
    use some .zero
    rcases hmark with rfl | rfl <;> exact ⟨rfl, isAhead_zero⟩
  | ahead hhour hcolon hminute => exact exists_of_shift (.inr ⟨rfl, rfl⟩) hhour hcolon hminute
  | behind hmark hhour hcolon hminute =>
    exact exists_of_shift (.inl ⟨hmark, rfl⟩) hhour hcolon hminute

/-- A zone begins with nothing that a time of day goes on with. -/
theorem ZoneText.head {ahead : ℤ} (h : ZoneText zs ahead) :
  ∀ c ∈ zs.head?, Text.isAsciiDigit c = false ∧ c ≠ ':' ∧ ¬ (c = '.' ∨ c = ',')
  := by
  cases h with
  | none => simp
  | universal hmark =>
    rcases hmark with rfl | rfl <;> rintro c ⟨⟩ <;> decide
  | ahead => rintro c ⟨⟩; decide
  | behind hmark =>
    rcases hmark with rfl | rfl <;> rintro c ⟨⟩ <;> decide

/-- Seconds that are written before a zone are read. -/
theorem SecondsText.exists_second {n : ℕ} {ahead : ℤ} (h : SecondsText ss n)
    (hzone : ZoneText zs ahead) :
  ∃ second microsecond, secondsOfText? (ss ++ zs) = some (second, microsecond, zs)
    ∧ second < 60 ∧ microsecond < 1000000 ∧ second * 1000000 + microsecond = n
  := by
  have hhead := hzone.head
  cases h with
  | none =>
    refine ⟨0, 0, ?_, by decide, by decide, rfl⟩
    rw [List.nil_append]
    unfold secondsOfText?
    split
    · exact absurd rfl (hhead _ rfl).2.1
    · exact absurd rfl (hhead _ rfl).2.1
    · rfl
  | whole hsecond =>
    obtain ⟨a, b, rfl, hsecond, hlt⟩ := hsecond.exists
    refine ⟨_, 0, ?_, hlt, by decide, Nat.add_zero _⟩
    cases zs with
    | nil => simp [secondsOfText?, hsecond]
    | cons c zs => simp [secondsOfText?, hsecond, (hhead c rfl).2.2]
  | fraction hsecond hpoint hne hdigits =>
    obtain ⟨a, b, rfl, hsecond, hlt⟩ := hsecond.exists
    have htake := Text.takeWhile_append_of_head hdigits (fun c hc => (hhead c hc).1)
    have hdrop := Text.dropWhile_append_of_head hdigits (fun c hc => (hhead c hc).1)
    refine ⟨_, _, ?_, hlt, ?_, rfl⟩
    · simp [secondsOfText?, hsecond, hpoint, htake, hdrop, hne, microsecondsOfFraction_eq]
    · rw [Nat.div_lt_iff_lt_mul (Nat.pow_pos (by decide)), mul_comm]
      exact Nat.mul_lt_mul_of_pos_left (Text.decimalValue_lt _) (by decide)

/-! ### Moments -/

/-- A date and a time of day are read when their parts are. -/
theorem partsOfText?_eq_some {ds hs ms : List Char} {date : Date} {separator : Char}
    {hour minute second microsecond : ℕ} {clock : Clock} {offset : Option Offset}
    (hdate : DateText ds date) (hseparator : isSeparator separator = true)
    (hhour : twoDigits? hs = some hour) (hminute : twoDigits? ms = some minute)
    (hseconds : secondsOfText? rest = some (second, microsecond, zs))
    (hclock : Clock.make? hour minute second microsecond = some clock)
    (hoffset : offsetOfText? zs = some offset) :
  partsOfText? (ds ++ separator :: (hs ++ ':' :: (ms ++ rest)))
    = some ((date.year, date.month, date.day), clock, offset)
  := by
  obtain ⟨hlength, hparts⟩ := hdate.dateParts?
  obtain ⟨a, b, rfl, -, -⟩ := exists_of_twoDigits? hhour
  obtain ⟨c, d, rfl, -, -⟩ := exists_of_twoDigits? hminute
  simp only [partsOfText?, ← hlength, List.take_left, List.drop_left, hparts, hseparator, if_true,
    List.cons_append, List.nil_append, clockOfText?, hhour, hminute, hseconds, hclock, hoffset,
    Option.bind_eq_bind, Option.bind_some]

theorem ofInstant_eq_sound_iff :
  ofInstant i = .sound t ↔ ofInstant? i = some t
  := by
  unfold ofInstant
  cases ofInstant? i <;> simp [Checked.fault]

variable [EpochRule] {d : Document}

theorem ofNumeral_eq_sound_iff :
  ofNumeral cs = .sound t ↔ ∃ i, instantOfNumeral? cs = some i ∧ ofInstant? i = some t
  := by
  unfold ofNumeral
  cases instantOfNumeral? cs with
  | none => simp [Checked.fault]
  | some i => cases hread : ofInstant? i <;> simp [Checked.fault, hread]

/-- A timestamp is read from a number, from a numeral in a text, or from the parts of a moment. -/
theorem check_cases (h : check d = .sound t) :
  (∃ n, d = .int n ∧ ofInstant? (instantOfInt n) = some t)
  ∨ (∃ x i, d = .float x ∧ EpochRule.number? x = some i ∧ ofInstant? i = some t)
  ∨ (∃ s i, d = .text s ∧ instantOfNumeral? s.toList = some i ∧ ofInstant? i = some t)
  ∨ ∃ s year month day, d = .text s
    ∧ partsOfText? s.toList = some ((year, month, day), t.clock, t.offset)
    ∧ Date.make? year month day = some t.date
  := by
  cases d with
  | int n =>
    simp only [check] at h
    split at h
    · exact .inl ⟨n, rfl, ofInstant_eq_sound_iff.mp h⟩
    · cases h
  | float x =>
    simp only [check, ofFloat] at h
    split at h
    · rename_i i hnumber
      exact .inr (.inl ⟨x, i, rfl, hnumber, ofInstant_eq_sound_iff.mp h⟩)
    · cases h
  | text s =>
    simp only [check, ofText] at h
    split at h
    · rename_i year month day clock offset hparts
      split at h
      · rename_i date hdate
        cases h
        exact .inr (.inr (.inr ⟨s, year, month, day, rfl, hparts, hdate⟩))
      · cases h
    · obtain ⟨i, hnumeral, hread⟩ := ofNumeral_eq_sound_iff.mp h
      exact .inr (.inr (.inl ⟨s, i, rfl, hnumeral, hread⟩))
  | _ => cases h

end Timestamp

end PodTable
