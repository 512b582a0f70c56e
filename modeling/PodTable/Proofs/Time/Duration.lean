import PodTable.Proofs.Text.Digits
import PodTable.Proofs.Time.Seconds

/-!
# Texts of durations

The text of a duration is a sequence of components, each of which is a number of units.
`Duration.components?` reads the components of a text back, and `Duration.total` counts their
seconds. A text has one or two components, whose total is the duration cut to the grain of its
length. Each coarser grain begins at a multiple of itself, so a longer duration never has the lesser
total.
-/

namespace PodTable

/-- The units that durations are written in. A year has 365 days. -/
inductive TimeUnit where
  | second
  | minute
  | hour
  | day
  | year
deriving DecidableEq, Repr

namespace TimeUnit

/-- The letter of a unit. -/
def letter : TimeUnit → Char
  | second => 's'
  | minute => 'm'
  | hour => 'h'
  | day => 'd'
  | year => 'y'

/-- The unit of a letter. -/
def ofLetter? : Char → Option TimeUnit
  | 's' => some second
  | 'm' => some minute
  | 'h' => some hour
  | 'd' => some day
  | 'y' => some year
  | _ => none

/-- The number of seconds in a unit. -/
def length : TimeUnit → ℕ
  | second => 1
  | minute => 60
  | hour => 60 * 60
  | day => 24 * 60 * 60
  | year => 365 * 24 * 60 * 60

/-- The number of microseconds in a unit. -/
def microseconds (u : TimeUnit) : ℤ := u.length * 1000000

theorem length_eq :
  second.length = 1 ∧ minute.length = 60 ∧ hour.length = 3600 ∧ day.length = 86400
    ∧ year.length = 31536000
  := ⟨rfl, rfl, rfl, rfl, rfl⟩

@[simp]
theorem ofLetter?_letter (u : TimeUnit) :
  ofLetter? u.letter = some u
  := by
  cases u <;> rfl

theorem isAsciiDigit_letter (u : TimeUnit) :
  Text.isAsciiDigit u.letter = false
  := by
  cases u <;> rfl

end TimeUnit

namespace Duration

open Text

/-! ### Components -/

/-- A number of units. -/
structure Component where
  count : ℕ
  unit : TimeUnit
deriving DecidableEq, Repr

namespace Component

/-- The form in which a component is written. -/
def text (c : Component) : List Char := digits c.count ++ [c.unit.letter]

/-- The number of seconds in a component. -/
def seconds (c : Component) : ℕ := c.count * c.unit.length

end Component

/-- The number of seconds in some components. -/
def total (cs : List Component) : ℕ := (cs.map Component.seconds).sum

/-- There are one or two components. A second one is not zero, and less than one unit of the
first. -/
inductive IsCanonical : List Component → Prop
  | one (c : Component) : IsCanonical [c]
  | two (c c' : Component) (hpos : 0 < c'.count) (hlt : c'.seconds < c.unit.length) :
      IsCanonical [c, c']

/-- The components of a text that follows digits of the number `pending`, if there are any. -/
def componentsAfter (pending : Option ℕ) : List Char → Option (List Component)
  | [] => if pending.isNone then some [] else none
  | c :: cs =>
    if isAsciiDigit c then componentsAfter (some (10 * pending.getD 0 + digitValue c)) cs
    else
      match pending, TimeUnit.ofLetter? c with
      | some n, some u => (componentsAfter none cs).map (⟨n, u⟩ :: ·)
      | _, _ => none

/-- The components that a text consists of. -/
def components? (s : String) : Option (List Component) := componentsAfter none s.toList

theorem componentsAfter_digit {c : Char} (h : isAsciiDigit c = true) (pending : Option ℕ)
    (cs : List Char) :
  componentsAfter pending (c :: cs) = componentsAfter (some (10 * pending.getD 0 + digitValue c)) cs
  := by
  rw [componentsAfter.eq_def]
  simp only [h, if_true]

theorem componentsAfter_letter (n : ℕ) (u : TimeUnit) (cs : List Char) :
  componentsAfter (some n) (u.letter :: cs) = (componentsAfter none cs).map (⟨n, u⟩ :: ·)
  := by
  rw [componentsAfter.eq_def]
  simp only [u.isAsciiDigit_letter, u.ofLetter?_letter, Bool.false_eq_true, if_false]

theorem componentsAfter_digits {ds : List Char} (hds : ∀ c ∈ ds, isAsciiDigit c = true) (n : ℕ)
    (cs : List Char) :
  componentsAfter (some n) (ds ++ cs)
    = componentsAfter (some (ds.foldl (fun n c => 10 * n + digitValue c) n)) cs
  := by
  induction ds generalizing n with
  | nil => rfl
  | cons d ds ih =>
    rw [List.cons_append, componentsAfter_digit (hds d List.mem_cons_self), List.foldl_cons]
    apply ih
    exact fun c hc => hds c (List.mem_cons_of_mem d hc)

/-- Reading begins with the component that is written first. -/
theorem componentsAfter_text (c : Component) (cs : List Char) :
  componentsAfter none (c.text ++ cs) = (componentsAfter none cs).map (c :: ·)
  := by
  obtain ⟨d, ds, hdigits⟩ : ∃ d ds, digits c.count = d :: ds :=
    List.exists_cons_of_length_pos (width_pos c.count)
  have hds : ∀ e ∈ d :: ds, isAsciiDigit e = true := by
    rw [← hdigits]
    exact fun _ => isAsciiDigit_of_mem_digits
  have hvalue := decimalValue_digits c.count
  rw [hdigits, decimalValue, List.foldl_cons] at hvalue
  rw [Component.text, hdigits, List.cons_append, List.cons_append,
    componentsAfter_digit (hds d List.mem_cons_self), List.append_assoc,
    componentsAfter_digits fun e he => hds e (List.mem_cons_of_mem d he), Option.getD_none, hvalue]
  apply componentsAfter_letter

/-- The components that are written are read. -/
theorem componentsAfter_flatMap (cs : List Component) :
  componentsAfter none (cs.flatMap Component.text) = some cs
  := by
  induction cs with
  | nil => rfl
  | cons c cs ih => rw [List.flatMap_cons, componentsAfter_text, ih, Option.map_some]

/-! ### Texts of seconds -/

/-- The text has canonical components of `n` seconds together. -/
def Writes (s : String) (n : ℕ) : Prop :=
  ∃ cs, components? s = some cs ∧ IsCanonical cs ∧ total cs = n

variable {m n k : ℕ} {s s' : String} {u v : TimeUnit}

theorem components?_of_toList {cs : List Component} (h : s.toList = cs.flatMap Component.text) :
  components? s = some cs
  := by
  rw [components?, h, componentsAfter_flatMap]

theorem toList_part (hu : s.toList = [u.letter]) (n : ℕ) :
  (part n s).toList = (⟨n, u⟩ : Component).text
  := by
  rw [part, String.toList_append, toList_numeral, hu, if_neg (by omega), List.nil_append,
    Int.natAbs_natCast]
  rfl

theorem writes_part (hu : s.toList = [u.letter]) (hn : n * u.length = k) :
  Writes (part n s) k
  := by
  use [⟨n, u⟩]
  refine ⟨?_, .one _, ?_⟩
  · apply components?_of_toList
    simpa using toList_part hu n
  · simpa [total, Component.seconds] using hn

theorem writes_parts (hu : s.toList = [u.letter]) (hv : s'.toList = [v.letter])
    (hlt : m * v.length < u.length) (hn : n * u.length + m * v.length = k) :
  Writes (parts n s m s') k
  := by
  unfold parts
  split
  · rename_i hzero
    apply writes_part hu
    simpa [hzero] using hn
  · use [⟨n, u⟩, ⟨m, v⟩]
    refine ⟨?_, ?_, ?_⟩
    · apply components?_of_toList
      rw [String.toList_append, toList_part hu, toList_part hv]
      simp
    · apply IsCanonical.two
      · apply Nat.pos_of_ne_zero
        assumption
      · exact hlt
    · simpa [total, Component.seconds] using hn

/-! ### Grains -/

/-- The unit that a duration of `d` microseconds is cut to. -/
def grain (d : ℤ) : TimeUnit :=
  if d < 10 * TimeUnit.minute.microseconds then .second
  else if d < 8 * TimeUnit.hour.microseconds then .minute
  else if d < 8 * TimeUnit.day.microseconds then .hour
  else if d < 8 * TimeUnit.year.microseconds then .day
  else .year

/-- The number of seconds in the grain of `n` seconds. -/
def step (n : ℕ) : ℕ := (grain (n * 1000000)).length

/-- The number `n` of seconds, cut to its grain. -/
def truncated (n : ℕ) : ℕ := n / step n * step n

/-- The grains in seconds. -/
theorem step_cases (n : ℕ) :
  n < 600 ∧ step n = 1
  ∨ 600 ≤ n ∧ n < 28800 ∧ step n = 60
  ∨ 28800 ≤ n ∧ n < 691200 ∧ step n = 3600
  ∨ 691200 ≤ n ∧ n < 252288000 ∧ step n = 86400
  ∨ 252288000 ≤ n ∧ step n = 31536000
  := by
  have hlength := TimeUnit.length_eq
  unfold step grain TimeUnit.microseconds
  -- The grain is known in each case by the limits that the number is between.
  split
  · omega
  split
  · omega
  split
  · omega
  split <;> omega

/-- The text of a number of seconds writes it cut to its grain. -/
theorem writes_secondsText (n : ℕ) :
  Writes (secondsText n) (truncated n)
  := by
  have hcases := step_cases n
  unfold secondsText truncated
  simp only
  split
  · have hstep : step n = 1 := by omega
    rw [hstep]
    refine writes_part (u := .second) rfl ?_
    simp only [TimeUnit.length]
    omega
  split
  · have hstep : step n = 1 := by omega
    rw [hstep]
    refine writes_parts (u := .minute) (v := .second) rfl rfl ?_ ?_
    all_goals
      simp only [TimeUnit.length]
      omega
  split
  · have hstep : step n = 60 := by omega
    rw [hstep]
    exact writes_part (u := .minute) rfl rfl
  split
  · have hstep : step n = 60 := by omega
    rw [hstep]
    refine writes_parts (u := .hour) (v := .minute) rfl rfl ?_ ?_
    all_goals
      simp only [TimeUnit.length]
      omega
  split
  · have hstep : step n = 3600 := by omega
    rw [hstep]
    refine writes_part (u := .hour) rfl ?_
    simp only [TimeUnit.length]
    omega
  split
  · have hstep : step n = 3600 := by omega
    rw [hstep]
    refine writes_parts (u := .day) (v := .hour) rfl rfl ?_ ?_
    all_goals
      simp only [TimeUnit.length]
      omega
  split
  · have hstep : step n = 86400 := by omega
    rw [hstep]
    refine writes_part (u := .day) rfl ?_
    simp only [TimeUnit.length]
    omega
  split
  · have hstep : step n = 86400 := by omega
    rw [hstep]
    refine writes_parts (u := .year) (v := .day) rfl rfl ?_ ?_
    all_goals
      simp only [TimeUnit.length]
      omega
  · have hstep : step n = 31536000 := by omega
    rw [hstep]
    refine writes_part (u := .year) rfl ?_
    simp only [TimeUnit.length]
    omega

/-! ### Order -/

theorem truncated_le (n : ℕ) :
  truncated n ≤ n
  := Nat.div_mul_le_self n (step n)

theorem step_pos (n : ℕ) :
  0 < step n
  := by
  have hcases := step_cases n
  omega

theorem lt_truncated_add (n : ℕ) :
  n < truncated n + step n
  := Nat.lt_div_mul_add (step_pos n)

/-- A multiple of the grain is not cut off. -/
theorem le_truncated (hdvd : step n ∣ m) (hle : m ≤ n) :
  m ≤ truncated n
  := by
  rw [← Nat.div_mul_cancel hdvd]
  apply Nat.mul_le_mul_right
  apply Nat.div_le_div_right hle

theorem step_mono (h : m ≤ n) :
  step m ≤ step n
  := by
  have hm := step_cases m
  have hn := step_cases n
  omega

/-- Each grain begins at a multiple of itself. -/
theorem exists_start (n : ℕ) :
  ∃ k, step n ∣ k ∧ k ≤ n ∧ ∀ m, k ≤ m → m ≤ n → step m = step n
  := by
  obtain ⟨k, hdvd, hle, hk⟩ : ∃ k, step n ∣ k ∧ k ≤ n ∧ step k = step n := by
    rcases step_cases n with ⟨_, hn⟩ | ⟨hle, _, hn⟩ | ⟨hle, _, hn⟩ | ⟨hle, _, hn⟩ | ⟨hle, hn⟩ <;>
      rw [hn]
    · exact ⟨0, by decide, n.zero_le, rfl⟩
    · exact ⟨600, by decide, hle, rfl⟩
    · exact ⟨28800, by decide, hle, rfl⟩
    · exact ⟨691200, by decide, hle, rfl⟩
    · exact ⟨252288000, by decide, hle, rfl⟩
  refine ⟨k, hdvd, hle, fun m hkm hmn => ?_⟩
  apply le_antisymm (step_mono hmn)
  rw [← hk]
  exact step_mono hkm

/-- More seconds are not cut to fewer. -/
theorem truncated_mono (h : m ≤ n) :
  truncated m ≤ truncated n
  := by
  obtain ⟨k, hdvd, hle, hsame⟩ := exists_start n
  rcases Nat.lt_or_ge m k with hlt | hge
  · calc truncated m
        ≤ m := truncated_le m
      _ ≤ k := hlt.le
      _ ≤ truncated n := le_truncated hdvd hle
  · unfold truncated
    rw [hsame m hge h]
    apply Nat.mul_le_mul_right
    apply Nat.div_le_div_right h

/-- Numbers of seconds that are cut to the same have the same grain. -/
theorem step_eq_of_truncated_eq (hle : m ≤ n) (h : truncated m = truncated n) :
  step m = step n
  := by
  obtain ⟨k, hdvd, hk, hsame⟩ := exists_start n
  apply hsame m _ hle
  calc k
      ≤ truncated n := le_truncated hdvd hk
    _ = truncated m := h.symm
    _ ≤ m := truncated_le m

/-- The text of a number of hours, of which there are at least eight. -/
def hoursText (hours : ℕ) : String :=
  if hours < 48 then part hours "h"
  else if hours < 24 * 8 then parts (hours / 24) "d" (hours % 24) "h"
  else if hours < 24 * 365 * 2 then part (hours / 24) "d"
  else if hours < 24 * 365 * 8 then parts (hours / 24 / 365) "y" (hours / 24 % 365) "d"
  else part (hours / 24 / 365) "y"

/-- From eight hours on a text depends on the hours only. -/
theorem secondsText_eq_hoursText (h : 28800 ≤ n) :
  secondsText n = hoursText (n / 3600)
  := by
  have hhours : n / 3600 = n / 60 / 60 := by rw [Nat.div_div_eq_div_mul]
  rw [hhours, hoursText, secondsText, if_neg (by omega), if_neg (by omega), if_neg (by omega),
    if_neg (by omega)]

/-- From eight days on a text depends on the days only, and from eight years on on the years. -/
theorem hoursText_congr {a b : ℕ} (ha : 24 * 8 ≤ a) (hb : 24 * 8 ≤ b)
    (h : a / 24 = b / 24 ∨ 24 * 365 * 8 ≤ a ∧ 24 * 365 * 8 ≤ b ∧ a / 24 / 365 = b / 24 / 365) :
  hoursText a = hoursText b
  := by
  have hsmall : ¬ a < 48 ∧ ¬ b < 48 ∧ ¬ a < 24 * 8 ∧ ¬ b < 24 * 8 := by omega
  simp only [hoursText, hsmall, if_false]
  rcases h with hday | ⟨ha', hb', hyear⟩
  · have hyears : (a < 24 * 365 * 2 ↔ b < 24 * 365 * 2)
        ∧ (a < 24 * 365 * 8 ↔ b < 24 * 365 * 8) := by omega
    simp only [hyears, hday]
  · have hyears : ¬ a < 24 * 365 * 2 ∧ ¬ b < 24 * 365 * 2 ∧ ¬ a < 24 * 365 * 8
        ∧ ¬ b < 24 * 365 * 8 := by omega
    simp only [hyears, hyear, if_false]

/-- The text of a number of seconds depends on the grain and on the number of grains only. -/
theorem secondsText_congr (hstep : step m = step n) (hdiv : m / step m = n / step n) :
  secondsText m = secondsText n
  := by
  have hcases := step_cases m
  rw [hstep] at hcases hdiv
  rcases step_cases n with ⟨_, hn⟩ | ⟨_, _, hn⟩ | ⟨_, _, hn⟩ | ⟨_, _, hn⟩ | ⟨_, hn⟩ <;>
    rw [hn] at hdiv hcases
  · rw [Nat.div_one, Nat.div_one] at hdiv
    rw [hdiv]
  · have hlarge : ¬ m < 60 * 2 ∧ ¬ n < 60 * 2 ∧ ¬ n / 60 < 10 := by omega
    simp only [secondsText, hlarge, hdiv, if_false]
  · rw [secondsText_eq_hoursText (by omega), secondsText_eq_hoursText (by omega), hdiv]
  · rw [secondsText_eq_hoursText (by omega), secondsText_eq_hoursText (by omega)]
    apply hoursText_congr (by omega) (by omega)
    left
    omega
  · rw [secondsText_eq_hoursText (by omega), secondsText_eq_hoursText (by omega)]
    apply hoursText_congr (by omega) (by omega)
    right
    omega

/-! ### Texts of durations -/

variable {d d' : ℤ}

/-- The text of a duration of less than two seconds below zero. -/
def invalid : String := "<invalid>"

/-- No number of seconds is written as an invalid duration, which has no components. -/
theorem secondsText_ne_invalid (n : ℕ) :
  secondsText n ≠ invalid
  := by
  intro h
  obtain ⟨cs, hcs, -⟩ := writes_secondsText n
  have hnone : components? invalid = none := by decide
  rw [h, hnone] at hcs
  cases hcs

theorem text_eq_invalid_iff (h : IsDuration d) :
  text d = invalid ↔ d ≤ -2000000
  := by
  rw [← wholeSeconds_lt_iff h]
  simp only [text]
  split
  · rename_i hlt
    simp [hlt, invalid]
  · rename_i hge
    simp [hge, secondsText_ne_invalid]

theorem text_of_valid (h : IsDuration d) (hvalid : text d ≠ invalid) :
  text d = secondsText (wholeSeconds d).toNat
  := by
  rw [Ne, text_eq_invalid_iff h, ← wholeSeconds_lt_iff h] at hvalid
  simp only [text, if_neg hvalid]

/-- The grain of a duration is that of its whole seconds. -/
theorem step_toNat (hd : 0 ≤ d) :
  step (d / 1000000).toNat = (grain d).length
  := by
  have hlt (k : ℤ) (u : TimeUnit) :
      ((d / 1000000).toNat : ℤ) * 1000000 < k * u.microseconds ↔ d < k * u.microseconds := by
    rw [TimeUnit.microseconds, ← Int.mul_assoc]
    generalize k * u.length = b
    omega
  simp only [step, grain, hlt]

/-- Up to `2 ^ 33` seconds a text writes the duration cut to its grain. -/
theorem exists_components (hd : 0 ≤ d) (hlt : d < 2 ^ 33 * 1000000) :
  ∃ cs, components? (text d) = some cs ∧ IsCanonical cs
    ∧ total cs * 1000000 ≤ d ∧ d < (total cs + (grain d).length) * 1000000
  := by
  have hseconds : wholeSeconds d = d / 1000000 := by
    rw [wholeSeconds_eq_tdiv (by omega), Int.tdiv_eq_ediv_of_nonneg hd]
  have htext : text d = secondsText (d / 1000000).toNat := by
    simp only [text, hseconds]
    rw [if_neg (by omega)]
  obtain ⟨cs, hcs, hcanonical, htotal⟩ := writes_secondsText (d / 1000000).toNat
  have hle := truncated_le (d / 1000000).toNat
  have hgt := lt_truncated_add (d / 1000000).toNat
  rw [step_toNat hd] at hgt
  refine ⟨cs, htext ▸ hcs, hcanonical, ?_, ?_⟩ <;> rw [htotal] <;> omega

/-- A longer duration has no lesser total, and another text only if it has a greater one. -/
theorem exists_components_le (h : IsDuration d) (h' : IsDuration d') (hle : d ≤ d')
    (hvalid : text d ≠ invalid) :
  ∃ cs cs', components? (text d) = some cs ∧ components? (text d') = some cs'
    ∧ total cs ≤ total cs' ∧ (total cs = total cs' → text d = text d')
  := by
  have hvalid' : text d' ≠ invalid := by
    rw [Ne, text_eq_invalid_iff h] at hvalid
    rw [Ne, text_eq_invalid_iff h']
    omega
  have hseconds : (wholeSeconds d).toNat ≤ (wholeSeconds d').toNat :=
    Int.toNat_le_toNat (wholeSeconds_mono h h' hle)
  rw [text_of_valid h hvalid, text_of_valid h' hvalid']
  obtain ⟨cs, hcs, -, htotal⟩ := writes_secondsText (wholeSeconds d).toNat
  obtain ⟨cs', hcs', -, htotal'⟩ := writes_secondsText (wholeSeconds d').toNat
  refine ⟨cs, cs', hcs, hcs', ?_, ?_⟩ <;> rw [htotal, htotal']
  · apply truncated_mono hseconds
  · intro heq
    have hstep := step_eq_of_truncated_eq hseconds heq
    apply secondsText_congr hstep
    apply Nat.eq_of_mul_eq_mul_right (step_pos _)
    simpa only [truncated, hstep] using heq

/-- The text of a duration, given in microseconds, is a cut, monotone and canonical encoding. It is
invalid exactly from two seconds below zero on. Up to `2 ^ 33` seconds it has one or two components,
the second of which is not zero and less than one unit of the first, and their total is at most the
duration, by less than its grain. Of any two durations that are valid, the longer one has no lesser
total, and if the totals are the same, so are the texts. -/
theorem text_encodes :
  (∀ d, IsDuration d → (text d = "<invalid>" ↔ d ≤ -2000000))
  ∧ (∀ d, 0 ≤ d → d < 2 ^ 33 * 1000000 →
      ∃ cs, components? (text d) = some cs ∧ IsCanonical cs
        ∧ total cs * 1000000 ≤ d ∧ d < (total cs + (grain d).length) * 1000000)
  ∧ ∀ d d', IsDuration d → IsDuration d' → d ≤ d' → text d ≠ "<invalid>" →
      ∃ cs cs', components? (text d) = some cs ∧ components? (text d') = some cs'
        ∧ total cs ≤ total cs' ∧ (total cs = total cs' → text d = text d')
  := by
  refine ⟨?_, ?_, ?_⟩
  · intro d h
    apply text_eq_invalid_iff h
  · intro d hd hlt
    apply exists_components hd hlt
  · intro d d' h h' hle hvalid
    apply exists_components_le h h' hle hvalid

theorem text_encodes_five_minutes :
  text 305999999 = "5m5s"
  ∧ (∃ cs, components? (text 305999999) = some cs ∧ IsCanonical cs
      ∧ total cs * 1000000 ≤ (305999999 : ℤ) ∧ (305999999 : ℤ) < (total cs + 1) * 1000000)
  ∧ ∃ cs cs', components? (text 305999999) = some cs ∧ components? (text (10 ^ 18)) = some cs'
      ∧ total cs ≤ total cs'
  := by
  obtain ⟨hinvalid, htruncated, hmono⟩ := text_encodes
  have hvalid : text 305999999 ≠ "<invalid>" := by
    rw [Ne, hinvalid _ (by decide)]
    decide
  obtain ⟨cs, cs', hcs, hcs', hle, -⟩ := hmono _ (10 ^ 18) (by decide) (by decide) (by decide) hvalid
  exact ⟨by decide +kernel, htruncated 305999999 (by decide) (by decide), cs, cs', hcs, hcs', hle⟩

end Duration

end PodTable
