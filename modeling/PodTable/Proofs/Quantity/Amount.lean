import PodTable.Proofs.Quantity.Spelling

/-!
# Amounts and exact values

An amount is the exact value of a quantity, in whole units and rounded up, up to the roundings to
the standard precision on the way. Every whole number of units is a value that the precision
holds, so the roundings do not go beyond one: the amount is never too large, and at most one too
small. It is exact for the values that the precision holds.
-/

namespace PodTable

namespace Quantity

/-! ### Words -/

/-- The integer fits a signed word of sixty-four bits. -/
def InWord (i : ℤ) : Prop := -(2 ^ 63) ≤ i ∧ i < 2 ^ 63

instance (i : ℤ) : Decidable (InWord i) := inferInstanceAs (Decidable (_ ∧ _))

theorem fitsWord_iff {i : ℤ} :
  fitsWord i = true ↔ InWord i
  := by
  simp [fitsWord, InWord]

/-- The values that round up into a word are not far from one. -/
theorem abs_lt_of_inWord {x : ℚ} (h : InWord ⌈x⌉) :
  |x| < 10 ^ 20
  := by
  obtain ⟨hlow, hhigh⟩ := h
  have hlow' : (-(2 ^ 63) : ℚ) ≤ ⌈x⌉ := by exact_mod_cast hlow
  have hhigh' : (⌈x⌉ : ℚ) < 2 ^ 63 := by exact_mod_cast hhigh
  have hlt := Int.ceil_lt_add_one x
  have hle := Int.le_ceil x
  rw [abs_lt]
  constructor <;> linarith

variable {d : Decimal}

theorem ceil_eq (d : Decimal) :
  ceil d = ⌈d.toRat⌉
  := by
  have hsize : d.size
      = (d.coefficient * 10 ^ d.exponent.toNat : ℕ) / (10 ^ (-d.exponent).toNat : ℕ) := by
    simpa using (d.quotient_eq 0).symm
  simp only [ceil, Decimal.toRat]
  split
  · rw [hsize, Int.ceil_neg, Rat.floor_natCast_div_natCast, Int.natCast_ediv]
  · rw [hsize, ceil_eq_ceilQuotient _ (by positivity)]

/-- A number with a large leading digit does not fit a word. -/
theorem not_inWord_of_le_adjusted (hd : d.coefficient ≠ 0) (h : 20 ≤ d.adjusted) :
  ¬ InWord ⌈d.toRat⌉
  := by
  intro hword
  have hlt := abs_lt_of_inWord hword
  rw [Decimal.abs_toRat] at hlt
  have := Decimal.adjusted_lt_of_size_lt hd (k := 20) (by exact_mod_cast hlt)
  omega

/-- A number with a small leading digit lies between zero and one, or their opposites. -/
theorem ceil_of_adjusted_lt (hd : d.coefficient ≠ 0) (h : d.adjusted < -1) :
  ⌈d.toRat⌉ = if d.negative then 0 else 1
  := by
  have hlt : d.size < 1 := by
    apply lt_of_lt_of_le d.size_lt
    exact zpow_le_one_of_nonpos₀ (by norm_num) (by omega)
  have hpos : 0 < d.size := by
    apply lt_of_le_of_ne d.size_nonneg
    exact fun h => hd (Decimal.size_eq_zero_iff.mp h.symm)
  rw [Int.ceil_eq_iff]
  unfold Decimal.toRat
  split <;> constructor <;> push_cast <;> linarith

/-- The number rounded up, if that fits a word. -/
theorem wordCeil?_eq (d : Decimal) :
  wordCeil? d = if InWord ⌈d.toRat⌉ then some ⌈d.toRat⌉ else none
  := by
  unfold wordCeil?
  split
  · rename_i hd
    rw [Decimal.toRat_eq_zero_iff.mpr hd, Int.ceil_zero, if_pos (by decide)]
  rename_i hd
  split
  · rename_i hlarge
    rw [if_neg (not_inWord_of_le_adjusted hd hlarge)]
  split
  · rename_i hsmall
    have hword : InWord (if d.negative then 0 else 1) := by split <;> decide
    rw [ceil_of_adjusted_lt hd hsmall, if_pos hword]
  · simp only [ceil_eq, fitsWord_iff]

/-! ### Units -/

variable {k : ℕ} {i : ℤ}

/-- An amount in units is the value of a rounding, rounded up, and fits a word. -/
theorem ceil_of_units (h : units k d = .ok i) :
  i = ⌈(Precision.standard.round (d.scale k 0)).toRat⌉ ∧ InWord i
  := by
  unfold units at h
  split at h
  · rename_i hi
    obtain ⟨r, hr, hword⟩ := Option.bind_eq_some_iff.mp hi
    rw [wordCeil?_eq, Option.ite_none_right_eq_some] at hword
    rw [← Precision.toRat_of_fit hr]
    cases h
    obtain ⟨hword, heq⟩ := hword
    rw [Option.some.injEq] at heq
    exact ⟨heq.symm, heq ▸ hword⟩
  · cases h

theorem toRat_units (d : Decimal) (k : ℕ) :
  (d.scale k 0).toRat = d.toRat * k
  := by
  rw [Decimal.toRat_scale, zpow_zero, mul_one]

/-- There is an amount in units where the precision holds the number of units and it fits a
word. -/
theorem units_eq_ok (hd : Precision.standard.Holds (d.toRat * k)) (hword : InWord ⌈d.toRat * k⌉) :
  units k d = .ok ⌈d.toRat * k⌉
  := by
  have hlt : |d.toRat * k| < 10 ^ (Precision.standard.maxExponent + 1) := by
    apply lt_trans (abs_lt_of_inWord hword)
    rw [← zpow_natCast]
    exact zpow_lt_zpow_right₀ (by norm_num) (by decide)
  rw [← toRat_units] at hd hlt hword ⊢
  obtain ⟨r, hr⟩ := Precision.exists_fit hd hlt
  have hvalue := Precision.toRat_of_fit hr
  rw [Precision.round_of_holds hd] at hvalue
  unfold units
  rw [Precision.multiply, hr, Option.bind_some, wordCeil?_eq, hvalue, if_pos hword]

/-! ### Amounts of spellings -/

/-- The text spells `q`, between any blanks. -/
def Spelling.Spells (q : Spelling) (s : String) : Prop :=
  q.IsWellFormed ∧ Text.trim s.toList = q.text

variable {limit : Option ℕ} {s : String} {q : Spelling}

/-- The value of a text is the value of its spelling, if its power of ten is short enough. -/
theorem valueWithin_text (h : q.Spells s) (limit : Option ℕ) :
  valueWithin limit (.text s) =
    match q.scale.overlong? limit, q.value? with
    | some n, _ => .error (.overlong n)
    | none, none => .error (.tooLarge (.text s))
    | none, some d => .ok d
  := by
  have hspelling : Spelling.ofText? (Text.trim s.toList) = some q := by
    rw [h.2, Spelling.ofText?_text h.1]
  have hread : valueWithin limit (.text s) = ofTextWithin limit s := rfl
  rw [hread, ofTextWithin]
  generalize Spelling.ofText? (Text.trim s.toList) = o at hspelling ⊢
  subst hspelling
  rfl

/-- An amount of a text comes from a number that reads the exact value. -/
theorem exists_value_of_amount (h : q.Spells s)
    (hi : (valueWithin limit (.text s)).bind (units k) = .ok i) :
  ∃ v, Precision.standard.Reads q.exact v ∧ units k v = .ok i
  := by
  rw [valueWithin_text h] at hi
  cases hlong : q.scale.overlong? limit with
  | some n => simp [hlong, Except.bind] at hi
  | none =>
    cases hvalue : q.value? with
    | none => simp [hlong, hvalue, Except.bind] at hi
    | some v =>
      simp only [hlong, hvalue] at hi
      exact ⟨v, Spelling.reads_of_value? hvalue, hi⟩

/-- The standard precision holds every whole number of thousandths that is not too long. -/
theorem holds_div {n : ℤ} {j : ℕ} (hn : |n| < 10 ^ 28) (hj : j ≤ 3) :
  Precision.standard.Holds (n / 10 ^ j)
  := by
  use n, -j
  refine ⟨hn, ?_, by rw [zpow_neg, zpow_natCast, div_eq_mul_inv]⟩
  have : Precision.standard.tiny ≤ -3 := by decide
  omega

variable {v : Decimal} {x : ℚ} {n : ℤ} {j : ℕ}

/-- A whole number of units bounds the units of a reading as it bounds the exact ones. -/
theorem units_le_of_exact_le (hv : Precision.standard.Reads x v) (hj : j ≤ 3)
    (hn : |n| < 10 ^ 28) (h : x * 10 ^ j ≤ n) :
  (Precision.standard.round (v.scale (10 ^ j) 0)).toRat ≤ n
  := by
  have hpow : (0 : ℚ) < 10 ^ j := by positivity
  apply Precision.round_le_of_holds
  · simpa using holds_div (j := 0) hn (by decide)
  · rw [toRat_units, Nat.cast_pow, Nat.cast_ofNat, ← le_div_iff₀ hpow]
    apply hv.le_of_holds (holds_div hn hj)
    rwa [le_div_iff₀ hpow]

theorem le_units_of_le_exact (hv : Precision.standard.Reads x v) (hj : j ≤ 3)
    (hn : |n| < 10 ^ 28) (h : n ≤ x * 10 ^ j) :
  n ≤ (Precision.standard.round (v.scale (10 ^ j) 0)).toRat
  := by
  have hpow : (0 : ℚ) < 10 ^ j := by positivity
  apply Precision.le_round_of_holds
  · simpa using holds_div (j := 0) hn (by decide)
  · rw [toRat_units, Nat.cast_pow, Nat.cast_ofNat, ← div_le_iff₀ hpow]
    apply hv.ge_of_holds (holds_div hn hj)
    rwa [div_le_iff₀ hpow]

/-- Any integer that is a result fits a word, and is `n` or one less. -/
def IsNear (n : ℤ) (result : Except Refusal ℤ) : Prop :=
  ∀ i, result = .ok i → InWord i ∧ (i = n ∨ i = n - 1)

/-- The result is `n` where `n` fits a word, and a refusal otherwise. -/
def IsExactly (n : ℤ) (result : Except Refusal ℤ) : Prop :=
  (InWord n → result = .ok n) ∧ (¬ InWord n → ∃ r, result = .error r)

/-- An amount is the exact value rounded up, or one less. -/
theorem isNear_units (hv : Precision.standard.Reads x v) (hj : j ≤ 3) :
  IsNear ⌈x * 10 ^ j⌉ (units (10 ^ j) v)
  := by
  intro i hi
  obtain ⟨heq, hlow, hhigh⟩ := ceil_of_units hi
  have hle : i ≤ ⌈x * 10 ^ j⌉ := by
    by_contra hlt
    have hmax : |max ⌈x * 10 ^ j⌉ (-(2 ^ 63) - 1)| < (10 ^ 28 : ℤ) := by
      rw [abs_lt]
      omega
    have hbound : x * 10 ^ j ≤ (max ⌈x * 10 ^ j⌉ (-(2 ^ 63) - 1) : ℤ) := by
      apply le_trans (Int.le_ceil _)
      exact_mod_cast le_max_left _ _
    have := Int.ceil_le.mpr (units_le_of_exact_le hv hj hmax hbound)
    omega
  have hge : ⌈x * 10 ^ j⌉ ≤ i + 1 := by
    by_contra hlt
    have hsucc : |i + 1| < (10 ^ 28 : ℤ) := by
      rw [abs_lt]
      omega
    have hbound := (Int.lt_ceil.mp (not_le.mp hlt)).le
    have := Int.cast_le.mp (le_trans (le_units_of_le_exact hv hj hsucc hbound) (Int.le_ceil _))
    omega
  refine ⟨⟨hlow, hhigh⟩, ?_⟩
  omega

theorem isNear_amount (h : q.Spells s) (limit : Option ℕ) (hj : j ≤ 3) :
  IsNear ⌈q.exact * 10 ^ j⌉ ((valueWithin limit (.text s)).bind (units (10 ^ j)))
  := by
  intro i hi
  obtain ⟨v, hv, hunits⟩ := exists_value_of_amount h hi
  apply isNear_units hv hj i hunits

/-- An amount is exact where the standard precision holds the exact value. -/
theorem isExactly_amount (h : q.Spells s) (hexact : Precision.standard.Holds q.exact)
    (hshift : q.scale.exponent.natAbs ≤ Precision.standard.maxShift)
    (hlong : q.scale.overlong? limit = none) (j : ℕ) :
  IsExactly ⌈q.exact * 10 ^ j⌉ ((valueWithin limit (.text s)).bind (units (10 ^ j)))
  := by
  have hcast : ((10 ^ j : ℕ) : ℚ) = 10 ^ j := by push_cast; rfl
  have hholds := hexact.mul_pow j
  constructor
  · intro hword
    have hlt : |q.exact| < 10 ^ (Precision.standard.maxExponent + 1) := by
      have hle : |q.exact| ≤ |q.exact * 10 ^ j| := by
        rw [abs_mul, abs_of_pos (by positivity : (0 : ℚ) < 10 ^ j)]
        exact le_mul_of_one_le_right (abs_nonneg _) (one_le_pow₀ (by norm_num))
      apply lt_of_le_of_lt hle
      apply lt_trans (abs_lt_of_inWord hword)
      rw [← zpow_natCast]
      exact zpow_lt_zpow_right₀ (by norm_num) (by decide)
    obtain ⟨v, hvalue⟩ := Spelling.exists_value? hexact hshift hlt
    have hv := (Spelling.reads_of_value? hvalue).eq_of_holds hexact
    rw [← hv, ← hcast] at hholds hword ⊢
    rw [valueWithin_text h, hlong, hvalue]
    apply units_eq_ok hholds hword
  · intro hword
    cases hresult : (valueWithin limit (.text s)).bind (units (10 ^ j)) with
    | error r => exact ⟨r, rfl⟩
    | ok i =>
      obtain ⟨v, hv, hunits⟩ := exists_value_of_amount h hresult
      obtain ⟨heq, hi⟩ := ceil_of_units hunits
      rw [← hv.eq_of_holds hexact, ← hcast, ← toRat_units] at hholds hword
      rw [Precision.round_of_holds hholds] at heq
      exact absurd (heq ▸ hi) hword

/-- The amounts of a quantity and its exact value. Whatever the limit on the digits of a power of
ten, an amount fits a word, and is the exact one rounded up or one less. Where the exact value has
at most twenty-eight significant digits, is zero or not too small, and is not written with a power
of ten that is too large or refused for its digits, the amount is the exact one rounded up, and is
refused when this does not fit a word. -/
theorem amounts_of_spelling (h : q.Spells s) (limit : Option ℕ) :
  IsNear ⌈q.exact * 1000⌉ (millicoresWithin limit (.text s))
  ∧ IsNear ⌈q.exact⌉ (bytesWithin limit (.text s))
  ∧ (Precision.HasDigits 28 q.exact → (q.exact = 0 ∨ 10 ^ (-999999 : ℤ) ≤ |q.exact|) →
      q.scale.exponent.natAbs ≤ 2000054 → q.scale.overlong? limit = none →
      IsExactly ⌈q.exact * 1000⌉ (millicoresWithin limit (.text s))
      ∧ IsExactly ⌈q.exact⌉ (bytesWithin limit (.text s)))
  := by
  have hmilli : q.exact * 10 ^ 3 = q.exact * 1000 := by norm_num
  have hunit : q.exact * 10 ^ 0 = q.exact := by norm_num
  refine ⟨?_, ?_, ?_⟩
  · rw [← hmilli]
    apply isNear_amount h limit (j := 3) (by decide)
  · rw [← hunit]
    apply isNear_amount h limit (j := 0) (by decide)
  · intro hdigits hnormal hexp hlong
    have hexact : Precision.standard.Holds q.exact :=
      Precision.IsNormal.holds hnormal hdigits
    have hshift : (q.scale.exponent.natAbs : ℤ) ≤ Precision.standard.maxShift :=
      le_trans (Int.ofNat_le.mpr hexp) (by decide)
    constructor
    · rw [← hmilli]
      apply isExactly_amount h hexact hshift hlong 3
    · rw [← hunit]
      apply isExactly_amount h hexact hshift hlong 0

theorem amounts_of_quarter :
  millicoresWithin none (.text " 2.5e-1") = .ok 250 ∧ bytesWithin none (.text " 2.5e-1") = .ok 1
  := by
  have h : Spelling.Spells ⟨.unsigned, ['2'], true, ['5'], .power 'e' .minus ['1']⟩ " 2.5e-1" :=
    ⟨⟨by decide, by decide, by decide, by decide, .inl rfl, by decide, by decide⟩, by decide⟩
  have hexact :
      Spelling.exact ⟨.unsigned, ['2'], true, ['5'], .power 'e' .minus ['1']⟩ = 1 / 4 := by
    have hvalue : Text.decimalValue ['2', '5'] = 25 := by decide
    have hexp : exponentValue .minus ['1'] = -1 := by decide
    norm_num [Spelling.exact, Sign.factor, Scale.factor, hvalue, hexp]
  obtain ⟨-, -, hexactly⟩ := amounts_of_spelling h none
  rw [hexact] at hexactly
  have hdigits : Precision.HasDigits 28 (1 / 4) := ⟨25, -2, by norm_num, by norm_num⟩
  have hnormal : (10 : ℚ) ^ (-999999 : ℤ) ≤ |1 / 4| := by
    have hle : (10 : ℚ) ^ (-999999 : ℤ) ≤ 10 ^ (-1 : ℤ) :=
      zpow_le_zpow_right₀ (by norm_num) (by decide)
    apply le_trans hle
    norm_num
  obtain ⟨hmilli, hbytes⟩ := hexactly hdigits (.inr hnormal) (by decide) rfl
  have hmilli' : ⌈(1 / 4 : ℚ) * 1000⌉ = 250 := by norm_num
  have hbytes' : ⌈(1 / 4 : ℚ)⌉ = 1 := by norm_num
  rw [hmilli'] at hmilli
  rw [hbytes'] at hbytes
  exact ⟨hmilli.1 (by decide), hbytes.1 (by decide)⟩

/-! ### Amounts of one value -/

/-- The units of a reading, rounded once more, are the units of the rounding of the exact value,
where a shift of the point by the units loses nothing. -/
theorem round_units (hv : Precision.standard.Reads x v) (hd : d.toRat = x)
    (hx : j = 0 ∨ Precision.standard.IsNormal x) :
  (Precision.standard.round (v.scale (10 ^ j) 0)).toRat
    = (Precision.standard.round d).toRat * 10 ^ j
  := by
  rw [← hv.round_eq hd]
  rcases hx with rfl | hnormal
  · rw [pow_zero, pow_zero, mul_one]
    apply Precision.round_congr
    rw [toRat_units, Nat.cast_one, mul_one]
  · rw [← Precision.round_scale (hv.isNormal hnormal)]
    apply Precision.round_congr
    rw [toRat_units, Decimal.toRat_scale, Nat.cast_one, one_mul, zpow_natCast, Nat.cast_pow,
      Nat.cast_ofNat]

/-- An amount is the rounding of the exact value, in units and rounded up. -/
theorem amount_eq (h : q.Spells s) (hd : d.toRat = q.exact)
    (hx : j = 0 ∨ Precision.standard.IsNormal q.exact)
    (hi : (valueWithin limit (.text s)).bind (units (10 ^ j)) = .ok i) :
  i = ⌈(Precision.standard.round d).toRat * 10 ^ j⌉
  := by
  obtain ⟨v, hv, hunits⟩ := exists_value_of_amount h hi
  rw [← round_units hv hd hx]
  exact (ceil_of_units hunits).1

theorem amount_mono {t : String} {r : Spelling} {i' : ℤ} (hq : q.Spells s) (hr : r.Spells t)
    (hx : j = 0 ∨ Precision.standard.IsNormal q.exact)
    (hy : j = 0 ∨ Precision.standard.IsNormal r.exact)
    (hi : (valueWithin limit (.text s)).bind (units (10 ^ j)) = .ok i)
    (hi' : (valueWithin limit (.text t)).bind (units (10 ^ j)) = .ok i')
    (hle : q.exact ≤ r.exact) :
  i ≤ i'
  := by
  obtain ⟨d, hd, -⟩ := q.value?_eq
  obtain ⟨d', hd', -⟩ := r.value?_eq
  rw [amount_eq hq hd hx hi, amount_eq hr hd' hy hi']
  apply Int.ceil_le_ceil
  apply mul_le_mul_of_nonneg_right _ (by positivity)
  apply Precision.round_mono
  rwa [hd, hd']

end Quantity

end PodTable
