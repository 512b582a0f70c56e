import Mathlib.Data.List.Induction
import Mathlib.Tactic.Ring
import PodTable.Text.Blank
import PodTable.Text.Digit
import PodTable.Text.Numeral

/-!
# Digits of numerals

The characters of the numeral of a natural number are digits, and denote the number. None of them
is blank, so trimming keeps a numeral. The numeral of an integer has a minus sign besides, and no
two integers have the same numeral. Digits in front of others count for as many powers of ten, and a
text is taken apart behind the digits it begins with.
-/

namespace PodTable

namespace Text

/-! ### Ten digits -/

theorem digit?_of_isAsciiDigit {c : Char} (h : isAsciiDigit c = true) :
  digit? c = some (c.toNat - 0x30)
  := by
  simp only [isAsciiDigit, Bool.and_eq_true, decide_eq_true_eq] at h
  have hz : (decide (0x30 ≤ c.toNat) && decide (c.toNat < 0x30 + 10)) = true := by
    simp only [Bool.and_eq_true, decide_eq_true_eq]
    omega
  obtain ⟨zs, hzs⟩ : ∃ zs, digitZeros = 0x30 :: zs := ⟨_, rfl⟩
  rw [digit?, hzs, List.find?_cons, hz, Option.map_some]

theorem isDigit_of_isAsciiDigit {c : Char} (h : isAsciiDigit c = true) :
  isDigit c = true
  := by
  rw [isDigit, digit?_of_isAsciiDigit h, Option.isSome_some]

theorem isBlank_of_isAsciiDigit {c : Char} (h : isAsciiDigit c = true) :
  isBlank c = false
  := by
  simp only [isAsciiDigit, Bool.and_eq_true, decide_eq_true_eq] at h
  simp only [isBlank, isSpace, Bool.or_eq_false_iff, Bool.and_eq_false_iff, beq_eq_false_iff_ne,
    decide_eq_false_iff_not]
  omega

theorem isAsciiDigit_of_mem_digits {n : Nat} {c : Char} (h : c ∈ digits n) :
  isAsciiDigit c = true
  := by
  have hdigit := Nat.isDigit_of_mem_toDigits (by decide) (by decide) h
  simp only [Char.isDigit, ge_iff_le, UInt32.le_iff_toNat_le, Bool.and_eq_true,
    decide_eq_true_eq] at hdigit
  simp only [isAsciiDigit, Bool.and_eq_true, decide_eq_true_eq]
  exact hdigit

theorem digitValue_digitChar {n : Nat} (h : n < 10) :
  digitValue n.digitChar = n
  := by
  have hchar := Nat.toNat_digitChar_of_lt_ten h
  have hdigit : isAsciiDigit n.digitChar = true := by
    simp only [isAsciiDigit, hchar, Bool.and_eq_true, decide_eq_true_eq]
    omega
  rw [digitValue, digit?_of_isAsciiDigit hdigit, hchar, Option.getD_some]
  omega

/-! ### Values of digits -/

theorem decimalValue_append_singleton (cs : List Char) (c : Char) :
  decimalValue (cs ++ [c]) = 10 * decimalValue cs + digitValue c
  := by
  simp [decimalValue]

/-- The digits in front count in units of a power of ten with as many zeros as there are others. -/
theorem decimalValue_append (cs ds : List Char) :
  decimalValue (cs ++ ds) = decimalValue cs * 10 ^ ds.length + decimalValue ds
  := by
  induction ds using List.reverseRecOn with
  | nil => simp [decimalValue]
  | append_singleton ds c ih =>
    rw [← List.append_assoc, decimalValue_append_singleton, ih, decimalValue_append_singleton,
      List.length_append, List.length_singleton, pow_succ]
    ring

theorem decimalValue_lt (cs : List Char) :
  decimalValue cs < 10 ^ cs.length
  := by
  induction cs using List.reverseRecOn with
  | nil => simp [decimalValue]
  | append_singleton cs c ih =>
    have := digitValue_lt c
    rw [decimalValue_append_singleton, List.length_append, List.length_singleton, pow_succ]
    omega

/-- The digits of a number denote the number. -/
theorem decimalValue_digits (n : Nat) :
  decimalValue (digits n) = n
  := by
  induction n using Nat.strongRecOn with
  | ind n ih =>
    unfold digits at ih ⊢
    rw [Nat.toDigits_eq_if (by decide)]
    split
    · rename_i hlt
      simp [decimalValue, digitValue_digitChar hlt]
    · rename_i hge
      rw [decimalValue_append_singleton, ih (n / 10) (by omega),
        digitValue_digitChar (Nat.mod_lt n (by decide))]
      omega

/-- Zeros in front change nothing. -/
theorem decimalValue_replicate_append (n : Nat) (cs : List Char) :
  decimalValue (List.replicate n '0' ++ cs) = decimalValue cs
  := by
  induction n with
  | zero => rfl
  | succ n ih =>
    rw [List.replicate_succ, List.cons_append, ← ih]
    rfl

theorem isAsciiDigit_of_mem_zeros {n : Nat} {c : Char} (h : c ∈ List.replicate n '0') :
  isAsciiDigit c = true
  := by
  rw [List.eq_of_mem_replicate h]
  decide

/-! ### Numbers of a fixed width -/

theorem isAsciiDigit_of_mem_zeroPad {n m : Nat} {c : Char} (h : c ∈ zeroPad n (digits m)) :
  isAsciiDigit c = true
  := by
  rcases List.mem_append.mp h with hzero | hdigit
  · exact isAsciiDigit_of_mem_zeros hzero
  · exact isAsciiDigit_of_mem_digits hdigit

theorem decimalValue_zeroPad (n m : Nat) :
  decimalValue (zeroPad n (digits m)) = m
  := by
  rw [zeroPad, decimalValue_replicate_append, decimalValue_digits]

/-- A number below a power of ten has as many digits, with zeros in front. -/
theorem length_zeroPad {n m : Nat} (hn : 0 < n) (h : m < 10 ^ n) :
  (zeroPad n (digits m)).length = n
  := by
  have hwidth : (digits m).length ≤ n := (width_le_iff hn).mpr h
  rw [zeroPad, List.length_append, List.length_replicate, Nat.sub_add_cancel hwidth]

/-! ### Numerals -/

theorem toList_numeral (i : Int) :
  (numeral i).toList = (if i < 0 then ['-'] else []) ++ digits i.natAbs
  := by
  rw [numeral]
  split <;> simp

theorem isAsciiDigit_of_mem_numeral {i : Int} {c : Char} (h : c ∈ (numeral i).toList) :
  c = '-' ∨ isAsciiDigit c = true
  := by
  rw [toList_numeral, List.mem_append] at h
  rcases h with hsign | hdigit
  · left
    split at hsign
    · simpa using hsign
    · cases hsign
  · right
    apply isAsciiDigit_of_mem_digits hdigit

/-- A numeral has no characters but a minus sign and digits. -/
theorem notMem_numeral {c : Char} (hsign : c ≠ '-') (hdigit : isAsciiDigit c = false) (i : Int) :
  c ∉ (numeral i).toList
  := by
  intro h
  rcases isAsciiDigit_of_mem_numeral h with hminus | hmem
  · contradiction
  · cases hdigit.symm.trans hmem

theorem digits_injective {m n : Nat} (h : digits m = digits n) :
  m = n
  := by
  rw [← decimalValue_digits m, h, decimalValue_digits]

/-- No numeral of a natural number begins with a minus sign. -/
theorem minus_cons_ne_digits (cs : List Char) (n : Nat) :
  '-' :: cs ≠ digits n
  := by
  intro h
  have hminus : isAsciiDigit '-' = true := by
    apply isAsciiDigit_of_mem_digits (n := n)
    rw [← h]
    apply List.mem_cons_self
  revert hminus
  decide

theorem numeral_inj {i j : Int} :
  numeral i = numeral j ↔ i = j
  := by
  constructor
  · intro h
    have hlist : (numeral i).toList = (numeral j).toList := by rw [h]
    rw [toList_numeral, toList_numeral] at hlist
    split at hlist <;> split at hlist
    · have := digits_injective (List.cons.inj hlist).2
      omega
    · cases minus_cons_ne_digits _ _ hlist
    · cases minus_cons_ne_digits _ _ hlist.symm
    · have := digits_injective hlist
      omega
  · rintro rfl
    rfl

/-! ### Runs of characters -/

/-- A text that begins with no character of the class `p`. -/
theorem takeWhile_eq_nil {p : Char → Bool} {cs : List Char} (h : ∀ c ∈ cs.head?, p c = false) :
  cs.takeWhile p = []
  := by
  cases cs with
  | nil => rfl
  | cons c cs => simp [h c rfl]

/-- The first characters of the class `p` end where `p` ends. -/
theorem takeWhile_append_of_head {p : Char → Bool} {cs cs' : List Char}
    (h : cs.all p = true) (h' : ∀ c ∈ cs'.head?, p c = false) :
  (cs ++ cs').takeWhile p = cs
  := by
  rw [List.takeWhile_append_of_pos (List.all_eq_true.mp h), takeWhile_eq_nil h', List.append_nil]

theorem dropWhile_append_of_head {p : Char → Bool} {cs cs' : List Char}
    (h : cs.all p = true) (h' : ∀ c ∈ cs'.head?, p c = false) :
  (cs ++ cs').dropWhile p = cs'
  := by
  rw [List.dropWhile_append_of_pos (List.all_eq_true.mp h)]
  cases cs' with
  | nil => rfl
  | cons c cs' => simp [h' c rfl]

/-! ### Trimming -/

theorem dropWhile_eq_self {p : Char → Bool} {cs : List Char} (h : ∀ c ∈ cs, p c = false) :
  cs.dropWhile p = cs
  := by
  cases cs with
  | nil => rfl
  | cons c cs => rw [List.dropWhile_cons_of_neg (by simp [h c List.mem_cons_self])]

/-- A text without blank characters is trimmed already. -/
theorem trim_eq_self {cs : List Char} (h : ∀ c ∈ cs, isBlank c = false) :
  trim cs = cs
  := by
  have hreverse : ∀ c ∈ cs.reverse, isBlank c = false := by simpa using h
  rw [trim, trimBy, dropWhile_eq_self h, dropWhile_eq_self hreverse, List.reverse_reverse]

end Text

end PodTable
