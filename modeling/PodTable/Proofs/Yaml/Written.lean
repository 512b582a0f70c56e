import Mathlib.Tactic.Common
import Mathlib.Tactic.IntervalCases
import PodTable.Yaml.Writer

/-!
# Written texts

Whatever text is written, its written form has printable characters of the first hundred and
twenty-eight and line feeds only: `Yaml.all_isDirect_writeText`. All else is written as an escape.
-/

namespace PodTable

namespace Yaml

/-! ### Runs -/

/-- Runs, one after the other, are the text. -/
theorem flatten_runs (cs : List Char) :
  (runs cs).flatten = cs
  := by
  induction cs with
  | nil => rfl
  | cons c cs ih =>
    rw [runs]
    split
    · rename_i d run more hruns
      rw [hruns] at ih
      split <;> simp_all
    · simp [ih]

theorem all_isDirect_nextLine (indent : Nat) :
  (nextLine indent).all isDirect = true
  := by
  have hspace : isDirect ' ' = true := by decide
  have hfeed : isDirect '\n' = true := by decide
  simp [nextLine, hspace, hfeed]

theorem all_isDirect_writeRuns (indent : Nat) (first : Bool) (column : Nat)
    {rs : List (List Char)} (h : rs.flatten.all isDirect = true) :
  (writeRuns indent first column rs).all isDirect = true
  := by
  induction rs generalizing first column with
  | nil => rfl
  | cons run more ih =>
    rw [List.flatten_cons, List.all_append, Bool.and_eq_true] at h
    obtain ⟨hrun, hmore⟩ := h
    rw [writeRuns]
    split
    · rw [List.all_append, all_isDirect_nextLine, ih _ _ hmore, Bool.and_self]
    · split
      · rw [List.all_append, List.all_append, hrun, all_isDirect_nextLine, ih _ _ hmore]
        rfl
      · rw [List.all_append, hrun, ih _ _ hmore, Bool.and_self]

/-! ### Escapes -/

theorem isDirect_upperHex_digitChar {n : Nat} (h : n < 16) :
  isDirect (upperHex n.digitChar) = true
  := by
  interval_cases n <;> decide

theorem all_isDirect_upperHex (n : Nat) :
  ((Nat.toDigits 16 n).map upperHex).all isDirect = true
  := by
  induction n using Nat.strongRecOn with
  | _ n ih =>
    obtain hlt | hle := Nat.lt_or_ge n 16
    · simp [Nat.toDigits_of_lt_base hlt, isDirect_upperHex_digitChar hlt]
    · have hlast := isDirect_upperHex_digitChar (Nat.mod_lt n (by decide : 0 < 16))
      rw [Nat.toDigits_of_base_le (by decide) hle, List.map_append, List.all_append,
        ih (n / 16) (by omega), Bool.true_and]
      simp [hlast]

theorem all_isDirect_hexDigits (width n : Nat) :
  ((Text.hexDigits width n).map upperHex).all isDirect = true
  := by
  have hzero : isDirect (upperHex '0') = true := by decide
  rw [Text.hexDigits, Text.zeroPad, List.map_append, List.all_append, all_isDirect_upperHex]
  simp [hzero]

theorem isDirect_of_escapeLetter? {c letter : Char} (h : escapeLetter? c = some letter) :
  isDirect letter = true
  := by
  unfold escapeLetter? at h
  split at h
  all_goals cases h
  -- The quotation mark and the backslash stand for themselves.
  case h_10 hc | h_11 hc => simp [isDirect, hc]
  all_goals decide

theorem all_isDirect_escape (c : Char) :
  (escape c).all isDirect = true
  := by
  have hbackslash : isDirect backslash = true := by decide
  have hx : isDirect 'x' = true := by decide
  have hu : isDirect 'u' = true := by decide
  have hU : isDirect 'U' = true := by decide
  rw [escape, List.all_cons, hbackslash, Bool.true_and]
  split
  · rename_i hletter
    simp [isDirect_of_escapeLetter? hletter]
  · split
    · rw [List.all_cons, hx, all_isDirect_hexDigits, Bool.and_self]
    · split
      · rw [List.all_cons, hu, all_isDirect_hexDigits, Bool.and_self]
      · rw [List.all_cons, hU, all_isDirect_hexDigits, Bool.and_self]

theorem all_isDirect_guardSpace (next : Option Char) :
  (guardSpace next).all isDirect = true
  := by
  have hbackslash : isDirect backslash = true := by decide
  unfold guardSpace
  split <;> simp [hbackslash]

theorem isDirect_of_not_isEscaped {c : Char} (h : isEscaped c = false) :
  isDirect c = true
  := by
  simp only [isEscaped, Bool.or_eq_false_iff, Bool.not_eq_false'] at h
  simp only [isDirect, h.1.1, Bool.or_true]

theorem all_isDirect_writeEscaped (indent : Nat) (first : Bool) (column : Nat)
    (pending : List Char) (h : pending.all isDirect = true) (cs : List Char) :
  (writeEscaped indent first column pending cs).all isDirect = true
  := by
  have hbackslash : isDirect backslash = true := by decide
  have hguard := all_isDirect_guardSpace
  have hline := all_isDirect_nextLine indent
  induction cs generalizing first column pending with
  | nil => exact h
  | cons c cs ih =>
    have hempty (column : Nat) := ih false column [] rfl
    simp only [writeEscaped]
    split
    · have hescape := all_isDirect_escape c
      split
      · simp only [List.all_append, List.all_cons, h, hescape, hbackslash, hline, hguard, hempty,
          Bool.and_self]
      · simp only [List.all_append, h, hescape, hempty, Bool.and_self]
    · rename_i hc
      have hdirect : isDirect c = true := isDirect_of_not_isEscaped (Bool.eq_false_iff.mpr hc)
      have hone (column : Nat) : (writeEscaped indent false column [c] cs).all isDirect = true :=
        ih false column [c] (by simp [hdirect])
      split
      · simp only [List.all_append, List.all_cons, h, hbackslash, hline, hguard, hone,
          Bool.and_self]
      · apply ih
        simp [h, hdirect]

/-! ### Texts -/

/-- What is written has printable characters of the first hundred and twenty-eight and line feeds
only. -/
theorem all_isDirect_writeText (indent column : Nat) (cs : List Char) :
  (writeText indent column cs).all isDirect = true
  := by
  have hspace : isDirect ' ' = true := by decide
  have hquotes : isDirect (Char.ofNat 0x22) = true ∧ isDirect (Char.ofNat 0x27) = true := by decide
  rw [writeText]
  split
  · have hwritten := all_isDirect_writeEscaped indent true (column + 2) [] rfl cs
    simp only [List.cons_append, List.all_cons, List.all_append, hspace, hquotes, hwritten,
      List.all_nil, Bool.and_self]
  · rename_i hdirect
    simp only [needsEscapes, Bool.or_eq_true, not_or, List.any_eq_true, not_exists, not_and,
      Bool.not_eq_true', Bool.not_eq_false] at hdirect
    have hcs : cs.all isDirect = true := List.all_eq_true.mpr hdirect.1.1
    have hruns (ds : List Char) (hds : ds.all isDirect = true) (first : Bool) (column : Nat) :
        (writeRuns indent first column (runs ds)).all isDirect = true :=
      all_isDirect_writeRuns indent first column ((flatten_runs ds).symm ▸ hds)
    split
    · rw [List.all_cons, hspace, hruns cs hcs, Bool.and_self]
    · have hdoubled : (cs.flatMap (fun c =>
          if c == Char.ofNat 0x27 then [Char.ofNat 0x27, Char.ofNat 0x27] else [c])).all isDirect
          = true := by
        rw [List.all_flatMap, List.all_eq_true]
        intro c hc
        split
        · simp [hquotes]
        · simp [hdirect.1.1 c hc]
      simp only [List.cons_append, List.all_cons, List.all_append, hspace, hquotes,
        hruns _ hdoubled, List.all_nil, Bool.and_self]

end Yaml

end PodTable
