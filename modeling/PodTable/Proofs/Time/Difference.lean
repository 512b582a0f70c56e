import Mathlib.Tactic.Common
import PodTable.Time.Age

/-!
# Differences of timestamps

The dates of the years 1 to 9999 are few enough days apart for every two timestamps to have a
difference once they both have a zone. So there is an age for every timestamp at every time.
-/

namespace PodTable

theorem daysInMonth_le (year month : Nat) :
  daysInMonth year month ≤ 31
  := by
  unfold daysInMonth
  split
  · split <;> decide
  · split <;> decide

theorem daysBeforeMonth_le (year month : Nat) :
  daysBeforeMonth year month ≤ 31 * month
  := by
  induction month with
  | zero => simp [daysBeforeMonth]
  | succ month ih =>
    have h := daysInMonth_le year month
    cases month with
    | zero => simp [daysBeforeMonth]
    | succ month =>
      rw [daysBeforeMonth]
      · omega
      · omega

/-- The dates span fewer than four million days. -/
theorem Date.number_lt (d : Date) :
  d.number < 4000000
  := by
  have hy := d.year_le
  have hm := daysBeforeMonth_le d.year d.month
  have hm' := d.month_le
  have hd := daysInMonth_le d.year d.month
  have hd' := d.day_le
  simp only [Date.number, daysBeforeYear]
  omega

theorem Clock.number_lt (c : Clock) :
  c.number < Timestamp.dayLength
  := by
  have h₁ := c.hour_lt
  have h₂ := c.minute_lt
  have h₃ := c.second_lt
  have h₄ := c.microsecond_lt
  unfold Clock.number Timestamp.dayLength
  omega

namespace Timestamp

/-- The distance of the zone of a timestamp from universal time, in microseconds. -/
def zoneShift (t : Timestamp) : Int :=
  match t.offset with
  | some o => o.microseconds
  | none => 0

theorem instant_eq (t : Timestamp) :
  t.instant = ((t.date.number * dayLength + t.clock.number : Nat) : Int) - t.zoneShift
  := rfl

theorem natAbs_zoneShift_lt (t : Timestamp) :
  t.zoneShift.natAbs < dayLength
  := by
  unfold zoneShift dayLength
  cases t.offset with
  | none => simp
  | some o =>
    have h₁ := o.microseconds_gt
    have h₂ := o.microseconds_lt
    simp only
    omega

/-- A timestamp is at most a day before the start of year 1, and not far behind year 9999. -/
theorem instant_bounds (t : Timestamp) :
  ∃ i : Int, t.instant = i ∧ -dayLength < i ∧ i < 4000001 * dayLength
  := by
  have hd := t.date.number_lt
  have hc := t.clock.number_lt
  have hz := t.natAbs_zoneShift_lt
  refine ⟨_, t.instant_eq, ?_⟩
  unfold dayLength at *
  omega

theorem isSome_offset_anchored (t : Timestamp) :
  t.anchored.offset.isSome = true
  := by
  unfold anchored
  split
  · rfl
  · rename_i h
    rw [h]
    rfl

/-- A timestamp without a zone is put in universal time, which it is taken in anyway. -/
theorem instant_anchored (t : Timestamp) :
  t.anchored.instant = t.instant
  := by
  obtain ⟨date, clock, offset⟩ := t
  cases offset <;> rfl

/-- Two timestamps with zones have a difference. -/
theorem since_anchored (now created : Timestamp) :
  now.anchored.since created.anchored = .ok (now.instant - created.instant)
  := by
  rw [← now.instant_anchored, ← created.instant_anchored]
  obtain ⟨i, hi, hi₁, hi₂⟩ := now.anchored.instant_bounds
  obtain ⟨j, hj, hj₁, hj₂⟩ := created.anchored.instant_bounds
  have hdays : Duration.excessDays? (i - j) = none := by
    have h : ((i - j) / 86400000000).natAbs ≤ Duration.dayLimit := by
      unfold dayLength at hi₁ hi₂ hj₁ hj₂
      unfold Duration.dayLimit
      omega
    rw [Duration.excessDays?, if_pos h]
  rw [since, isSome_offset_anchored, isSome_offset_anchored, if_neg (by simp), hi, hj, hdays]

end Timestamp

/-- An age is the text of the time between two points in time. -/
theorem Age.cell_some (created now : Timestamp) :
  Age.cell (some created) now = .ok (Duration.text (now.instant - created.instant))
  := by
  simp only [Age.cell, Timestamp.since_anchored, Except.map]

/-- There is an age of everything at every time. -/
theorem Age.exists_cell (created : Option Timestamp) (now : Timestamp) :
  ∃ s, Age.cell created now = .ok s
  := by
  cases created with
  | none => exact ⟨_, rfl⟩
  | some t => exact ⟨_, Age.cell_some t now⟩

end PodTable
