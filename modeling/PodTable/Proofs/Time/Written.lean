import PodTable.Proofs.Time.Difference
import PodTable.Proofs.Time.Moment

/-!
# Timestamps as they are written

A timestamp is written with four digits for its year and two for each other part, six digits for the
microseconds where there are any, and its zone to the minute. `Timestamp.check_text` says that this
text is read as the same timestamp if its zone has whole minutes, as the zone of every timestamp has
that is read.
-/

namespace PodTable

namespace Timestamp

open Text

/-! ### Numbers -/

theorem twoDigits_of_length {cs : List Char} (hlength : cs.length = 2)
    (hdigit : ∀ c ∈ cs, isAsciiDigit c = true) :
  TwoDigits 100 cs (decimalValue cs)
  := by
  match cs with
  | [a, b] =>
    apply twoDigits_of_twoDigits?
    rw [twoDigits?, hdigit a (by simp), hdigit b (by simp)]
    rfl

/-- A number is written with two digits. -/
theorem twoDigits_zeroPad {limit n : ℕ} (hlimit : limit ≤ 100) (h : n < limit) :
  TwoDigits limit (zeroPad 2 (digits n)) n
  := by
  have htwo := twoDigits_of_length (length_zeroPad (n := 2) (m := n) (by decide) (by omega))
    (fun _ => isAsciiDigit_of_mem_zeroPad)
  rw [decimalValue_zeroPad] at htwo
  exact ⟨htwo.1, h⟩

/-- A year is written with two digits for its century and two for its place there. -/
theorem exists_twoDigits_year {n : ℕ} (h : n < 10000) :
  ∃ cs ys century year, zeroPad 4 (digits n) = cs ++ ys ∧ TwoDigits 100 cs century
    ∧ TwoDigits 100 ys year ∧ n = 100 * century + year
  := by
  generalize hcs : zeroPad 4 (digits n) = cs
  have hlength : cs.length = 4 := hcs ▸ length_zeroPad (by decide) h
  have hdigit : ∀ c ∈ cs, isAsciiDigit c = true := by
    rw [← hcs]
    exact fun c => isAsciiDigit_of_mem_zeroPad
  have hvalue : decimalValue cs = n := hcs ▸ decimalValue_zeroPad 4 n
  have hcentury : TwoDigits 100 (cs.take 2) (decimalValue (cs.take 2)) :=
    twoDigits_of_length (by simp [hlength]) (fun c hc => hdigit c (List.mem_of_mem_take hc))
  have hyear : TwoDigits 100 (cs.drop 2) (decimalValue (cs.drop 2)) :=
    twoDigits_of_length (by simp [hlength]) (fun c hc => hdigit c (List.mem_of_mem_drop hc))
  refine ⟨_, _, _, _, (List.take_append_drop 2 cs).symm, hcentury, hyear, ?_⟩
  have hsplit := decimalValue_append (cs.take 2) (cs.drop 2)
  rw [List.take_append_drop, hvalue, List.length_drop, hlength] at hsplit
  omega

/-! ### Parts -/

theorem dateText_written (date : Date) :
  DateText (zeroPad 4 (digits date.year) ++ '-' :: zeroPad 2 (digits date.month)
    ++ '-' :: zeroPad 2 (digits date.day)) date
  := by
  have hmonth := date.month_le
  have hday := date.day_le.trans (daysInMonth_le date.year date.month)
  obtain ⟨cs, ys, century, year, htext, hcentury, hyear, hsplit⟩ :=
    exists_twoDigits_year (Nat.lt_succ_of_le date.year_le)
  rw [htext]
  exact .parts hcentury hyear hsplit (twoDigits_zeroPad le_rfl (by omega))
    (twoDigits_zeroPad le_rfl (by omega))

/-- The zone of an offset of whole minutes tells them. -/
theorem zoneText_text {o : Offset} {minutes : ℤ} (h : IsAhead (some o) minutes) :
  ZoneText o.text minutes
  := by
  rw [isAhead_some_iff] at h
  have hlow := o.microseconds_gt
  have hhigh := o.microseconds_lt
  have habs : o.microseconds.natAbs / 60000000 = minutes.natAbs := by omega
  have hhour : TwoDigits 24 (zeroPad 2 (digits (minutes.natAbs / 60))) (minutes.natAbs / 60) :=
    twoDigits_zeroPad (by decide) (by omega)
  have hminute : TwoDigits 60 (zeroPad 2 (digits (minutes.natAbs % 60))) (minutes.natAbs % 60) :=
    twoDigits_zeroPad (by decide) (by omega)
  unfold Offset.text
  rw [habs]
  rcases lt_trichotomy minutes 0 with hneg | hzero | hpos
  · have hzone := ZoneText.behind (.inl rfl) hhour (.inl rfl) hminute
    have hvalue : -((minutes.natAbs / 60 : ℕ) * 60 + (minutes.natAbs % 60 : ℕ) : ℤ) = minutes := by
      omega
    rw [hvalue] at hzone
    rw [if_neg (by omega), if_pos (by omega)]
    simpa using hzone
  · rw [if_pos (by omega), hzero]
    exact .universal (.inl rfl)
  · have hzone := ZoneText.ahead hhour (.inl rfl) hminute
    have hvalue : ((minutes.natAbs / 60 : ℕ) * 60 + (minutes.natAbs % 60 : ℕ) : ℤ) = minutes := by
      omega
    rw [hvalue] at hzone
    rw [if_neg (by omega), if_neg (by omega)]
    simpa using hzone

theorem eq_of_isAhead {o o' : Offset} {minutes : ℤ} (h : IsAhead (some o) minutes)
    (h' : IsAhead (some o') minutes) :
  o = o'
  := by
  rw [isAhead_some_iff] at h h'
  obtain ⟨n, hlow, hhigh⟩ := o
  obtain ⟨n', hlow', hhigh'⟩ := o'
  obtain rfl : n = n' := h.trans h'.symm
  rfl

/-- The zone of an offset of whole minutes is read as the offset. -/
theorem offsetOfText?_text {o : Offset} {minutes : ℤ} (h : IsAhead (some o) minutes) :
  offsetOfText? o.text = some (some o)
  := by
  by_cases hzero : minutes = 0
  · subst hzero
    rw [eq_of_isAhead h isAhead_zero]
    rfl
  · obtain ⟨o', hread, hahead⟩ := (zoneText_text h).exists_offset
    -- A text without a zone would be zero minutes ahead.
    cases o' with
    | none =>
      rw [IsAhead, Option.map_none, Option.getD_none] at hahead
      omega
    | some o' =>
      obtain rfl := eq_of_isAhead h hahead
      exact hread

/-- The zone of a timestamp, if it has one, is so many whole minutes ahead. -/
def HasWholeMinutes (t : Timestamp) : Prop := ∃ minutes, IsAhead t.offset minutes

/-- The zone of a timestamp, which may have none. -/
def zone (t : Timestamp) : List Char := (t.offset.map Offset.text).getD []

/-- The seconds of a timestamp, with its microseconds if there are any. -/
def seconds (t : Timestamp) : List Char :=
  ':' :: zeroPad 2 (digits t.clock.second)
    ++ if t.clock.microsecond = 0 then [] else '.' :: zeroPad 6 (digits t.clock.microsecond)

theorem HasWholeMinutes.zoneText_zone {t : Timestamp} (h : t.HasWholeMinutes) :
  ∃ minutes, ZoneText t.zone minutes
  := by
  obtain ⟨minutes, hahead⟩ := h
  unfold zone
  cases hoffset : t.offset with
  | none => exact ⟨0, .none⟩
  | some o => exact ⟨minutes, zoneText_text (hoffset ▸ hahead)⟩

theorem HasWholeMinutes.offsetOfText?_zone {t : Timestamp} (h : t.HasWholeMinutes) :
  offsetOfText? t.zone = some t.offset
  := by
  obtain ⟨minutes, hahead⟩ := h
  unfold zone
  cases hoffset : t.offset with
  | none => rfl
  | some o => exact offsetOfText?_text (hoffset ▸ hahead)

theorem secondsText_seconds (t : Timestamp) :
  SecondsText t.seconds (t.clock.second * 1000000 + t.clock.microsecond)
  := by
  have hsecond : TwoDigits 60 (zeroPad 2 (digits t.clock.second)) t.clock.second :=
    twoDigits_zeroPad (by decide) t.clock.second_lt
  unfold seconds
  by_cases hzero : t.clock.microsecond = 0
  · rw [if_pos hzero, hzero, List.append_nil, Nat.add_zero]
    exact .whole hsecond
  · have hlength : (zeroPad 6 (digits t.clock.microsecond)).length = 6 :=
      length_zeroPad (by decide) t.clock.microsecond_lt
    have hne : zeroPad 6 (digits t.clock.microsecond) ≠ [] := by
      apply List.ne_nil_of_length_pos
      omega
    have hfraction := SecondsText.fraction hsecond (.inl rfl) hne
      (List.all_eq_true.mpr fun c => isAsciiDigit_of_mem_zeroPad)
    have hmicrosecond : t.clock.microsecond * 1000000 / 10 ^ 6 = t.clock.microsecond :=
      Nat.mul_div_cancel _ (by decide)
    rw [decimalValue_zeroPad, hlength, hmicrosecond] at hfraction
    rw [if_neg hzero]
    exact hfraction

/-- The seconds of a timestamp are read before its zone. -/
theorem HasWholeMinutes.secondsOfText?_seconds {t : Timestamp} (h : t.HasWholeMinutes) :
  secondsOfText? (t.seconds ++ t.zone) = some (t.clock.second, t.clock.microsecond, t.zone)
  := by
  obtain ⟨_, hzone⟩ := h.zoneText_zone
  obtain ⟨second, microsecond, hread, -, hlt, hvalue⟩ := t.secondsText_seconds.exists_second hzone
  have hlt' := t.clock.microsecond_lt
  -- The number of microseconds tells the whole seconds from the part of one.
  obtain ⟨rfl, rfl⟩ : second = t.clock.second ∧ microsecond = t.clock.microsecond := by omega
  exact hread

/-! ### Timestamps -/

theorem make?_clock (c : Clock) :
  Clock.make? c.hour c.minute c.second c.microsecond = some c
  := dif_pos ⟨c.hour_lt, c.minute_lt, c.second_lt, c.microsecond_lt⟩

/-- A timestamp is read from its own text if its zone has whole minutes. -/
theorem check_text [EpochRule] {t : Timestamp} (h : t.HasWholeMinutes) :
  check (.text t.text) = .sound t
  := by
  have hhour : TwoDigits 24 (zeroPad 2 (digits t.clock.hour)) t.clock.hour :=
    twoDigits_zeroPad (by decide) t.clock.hour_lt
  have hminute : TwoDigits 60 (zeroPad 2 (digits t.clock.minute)) t.clock.minute :=
    twoDigits_zeroPad (by decide) t.clock.minute_lt
  have hseparator : isSeparator 'T' = true := rfl
  have hparts := partsOfText?_eq_some (dateText_written t.date) hseparator hhour.1 hminute.1
    h.secondsOfText?_seconds (make?_clock t.clock) h.offsetOfText?_zone
  have htext : t.text = String.ofList (zeroPad 4 (digits t.date.year)
      ++ '-' :: zeroPad 2 (digits t.date.month) ++ '-' :: zeroPad 2 (digits t.date.day)
      ++ 'T' :: (zeroPad 2 (digits t.clock.hour) ++ ':' :: (zeroPad 2 (digits t.clock.minute)
      ++ (t.seconds ++ t.zone)))) := by
    simp only [text, zone, seconds, List.append_assoc, List.cons_append]
    cases t.offset <;> rfl
  rw [htext, check, ofText, String.toList_ofList, hparts]
  simp only [make?_eq_some_iff.mpr ⟨rfl, rfl, rfl⟩]

/-! ### Timestamps that are read -/

variable {t : Timestamp}

theorem hasWholeMinutes_of_ofInstant? {i : Instant} (h : ofInstant? i = some t) :
  t.HasWholeMinutes
  := by
  simp only [ofInstant?, Option.ite_none_left_eq_some, Option.map_eq_some_iff] at h
  obtain ⟨-, _, -, rfl⟩ := h
  exact ⟨0, isAhead_zero⟩

theorem exists_isAhead_of_partsOfText? {cs : List Char} {date : ℕ × ℕ × ℕ} {clock : Clock}
    {offset : Option Offset} (h : partsOfText? cs = some (date, clock, offset)) :
  ∃ minutes, IsAhead offset minutes
  := by
  obtain ⟨_, -, hrest⟩ := Option.bind_eq_some_iff.mp h
  split at hrest
  · cases hrest
    exact ⟨0, isAhead_none⟩
  · rw [Option.ite_none_right_eq_some] at hrest
    obtain ⟨⟨_, _⟩, hclock, hparts⟩ := Option.bind_eq_some_iff.mp hrest.2
    cases hparts
    unfold clockOfText? at hclock
    split at hclock
    · simp only [Option.bind_eq_bind, Option.bind_eq_some_iff, Option.some.injEq,
        Prod.mk.injEq] at hclock
      obtain ⟨_, -, _, -, _, -, _, -, _, hzone, -, rfl⟩ := hclock
      obtain ⟨minutes, -, hahead⟩ := zoneText_of_offsetOfText? hzone
      exact ⟨minutes, hahead⟩
    · cases hclock

/-- The zone of a timestamp that is read has whole minutes. -/
theorem hasWholeMinutes_of_check [EpochRule] {d : Document} (h : check d = .sound t) :
  t.HasWholeMinutes
  := by
  obtain ⟨_, -, hread⟩ | ⟨_, _, -, -, hread⟩ | ⟨_, _, -, -, hread⟩ | ⟨_, _, _, _, -, hparts, -⟩ :=
    check_cases h
  · exact hasWholeMinutes_of_ofInstant? hread
  · exact hasWholeMinutes_of_ofInstant? hread
  · exact hasWholeMinutes_of_ofInstant? hread
  · exact exists_isAhead_of_partsOfText? hparts

end Timestamp

end PodTable
