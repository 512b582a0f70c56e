import Mathlib.Tactic.NormNum
import PodTable.Proofs.Number.Precision
import PodTable.Proofs.Text.Digits
import PodTable.Quantity

/-!
# Spellings and their values

A spelling is well formed when it is one that may be written: its digits are digits, it has some
of them, and it has a point when there are digits after it. Reading the text of a well-formed
spelling gives back the spelling, so a text spells at most one.

`Spelling.exact` is the rational number that a spelling denotes: the number times the factor of
the scale, without any rounding.
-/

namespace PodTable

namespace Text

theorem ne_of_isDigit {c c' : Char} (h : isDigit c = true) (h' : isDigit c' = false) :
  c ≠ c'
  := by
  rintro rfl
  rw [h] at h'
  contradiction

end Text

namespace Quantity

/-! ### Well-formed spellings -/

/-- A power of ten has its mark and some digits. -/
def Scale.IsWellFormed : Scale → Prop
  | .power mark _ digits =>
    (mark = 'e' ∨ mark = 'E') ∧ digits ≠ [] ∧ digits.all Text.isDigit = true
  | _ => True

/-- The spelling is one that may be written. -/
structure Spelling.IsWellFormed (q : Spelling) : Prop where
  whole : q.whole.all Text.isDigit = true
  fraction : q.fraction.all Text.isDigit = true
  point : q.point = false → q.fraction = []
  digits : q.whole ++ q.fraction ≠ []
  scale : q.scale.IsWellFormed

namespace Sign

theorem ofText_append (s : Sign) {cs : List Char} (h : ∀ c ∈ cs.head?, c ≠ '+' ∧ c ≠ '-') :
  ofText (s.text ++ cs) = s
  := by
  cases s with
  | plus => rfl
  | minus => rfl
  | unsigned =>
    cases cs with
    | nil => rfl
    | cons c cs =>
      obtain ⟨hplus, hminus⟩ := h c rfl
      unfold ofText text
      split <;> simp_all

/-- Digits do not begin with a sign. -/
theorem head_of_digits {cs : List Char} (h : cs.all Text.isDigit = true) :
  ∀ c ∈ cs.head?, c ≠ '+' ∧ c ≠ '-'
  := by
  intro c hc
  have hdigit := List.all_eq_true.mp h c (List.mem_of_mem_head? hc)
  exact ⟨Text.ne_of_isDigit hdigit (by decide), Text.ne_of_isDigit hdigit (by decide)⟩

end Sign

namespace Scale

/-- The text of a scale begins neither with a digit nor with a point. -/
theorem head_text {s : Scale} (h : s.IsWellFormed) :
  ∀ c ∈ s.text.head?, Text.isDigit c = false ∧ c ≠ '.'
  := by
  cases s with
  | unit => simp [text]
  | suffix s =>
    cases s <;> rintro c ⟨⟩ <;> decide
  | power mark sign digits =>
    obtain ⟨rfl | rfl, -, -⟩ := h <;> rintro c ⟨⟩ <;> decide

/-- After the mark of a power of ten, a suffix has nothing or an `i`. -/
theorem suffix_of_mark {s : Suffix} {mark : Char} {cs : List Char} (h : s.text = mark :: cs)
    (hmark : mark = 'e' ∨ mark = 'E') :
  cs = [] ∨ cs = ['i']
  := by
  cases s <;> cases h <;> simp_all

/-- No suffix is the text of a power of ten. -/
theorem suffix_ne_power {mark : Char} {sign : Sign} {digits : List Char}
    (h : (power mark sign digits).IsWellFormed) (s : Suffix) :
  s.text ≠ (power mark sign digits).text
  := by
  obtain ⟨hmark, hne, hdigits⟩ := h
  intro heq
  rcases suffix_of_mark heq hmark with hnil | hi
  · simp [hne] at hnil
  · cases sign with
    | plus => cases hi
    | minus => cases hi
    | unsigned =>
      obtain rfl : digits = ['i'] := hi
      exact absurd hdigits (by decide)

theorem ofText?_text {s : Scale} (h : s.IsWellFormed) :
  ofText? s.text = some s
  := by
  cases s with
  | unit => rfl
  | suffix s => cases s <;> rfl
  | power mark sign digits =>
    have hfind : Suffix.all.find? (fun s => s.text == (power mark sign digits).text) = none := by
      rw [List.find?_eq_none]
      intro s _
      simpa using suffix_ne_power h s
    obtain ⟨hmark, hne, hdigits⟩ := h
    rw [ofText?, if_neg (by simp [text]), hfind]
    simp only [text, powerOfText?, Sign.ofText_append sign (Sign.head_of_digits hdigits),
      List.drop_left]
    rw [if_pos ⟨hmark, hne, hdigits⟩]

end Scale

namespace Spelling

/-- The text after the digits before the point. -/
def afterWhole (q : Spelling) : List Char :=
  (if q.point then ['.'] else []) ++ q.fraction ++ q.scale.text

theorem text_eq (q : Spelling) :
  q.text = q.sign.text ++ (q.whole ++ q.afterWhole)
  := by
  simp [text, afterWhole]

variable {q : Spelling}

theorem head_afterWhole (h : q.IsWellFormed) :
  ∀ c ∈ q.afterWhole.head?, Text.isDigit c = false
  := by
  unfold afterWhole
  cases hpoint : q.point with
  | false =>
    rw [h.point hpoint]
    exact fun c hc => (Scale.head_text h.scale c hc).1
  | true =>
    intro c hc
    obtain rfl : '.' = c := by simpa using hc
    decide

/-- What follows the sign begins with a digit or with the point. -/
theorem head_unsigned (h : q.IsWellFormed) :
  ∀ c ∈ (q.whole ++ q.afterWhole).head?, c ≠ '+' ∧ c ≠ '-'
  := by
  cases hwhole : q.whole with
  | cons c' whole =>
    intro c hc
    apply Sign.head_of_digits h.whole
    simpa [hwhole] using hc
  | nil =>
    cases hpoint : q.point with
    | false => exact absurd (by simp [hwhole, h.point hpoint]) h.digits
    | true => simp [afterWhole, hpoint]

/-- Reading the text of a well-formed spelling gives back the spelling. -/
theorem ofText?_text (h : q.IsWellFormed) :
  ofText? q.text = some q
  := by
  have hscale : ∀ c ∈ q.scale.text.head?, Text.isDigit c = false :=
    fun c hc => (Scale.head_text h.scale c hc).1
  have hempty : (q.whole.isEmpty && q.fraction.isEmpty) = false := by
    simpa [Bool.and_eq_false_iff] using h.digits
  rw [text_eq]
  simp only [ofText?, Sign.ofText_append q.sign (head_unsigned h), List.drop_left,
    Text.takeWhile_append_of_head h.whole (head_afterWhole h),
    Text.dropWhile_append_of_head h.whole (head_afterWhole h)]
  cases hpoint : q.point with
  | false =>
    have hfraction := h.point hpoint
    have hhead : (q.scale.text.head? == some '.') = false := by
      simpa using fun hdot => (Scale.head_text h.scale '.' hdot).2 rfl
    have htext : q.afterWhole = q.scale.text := by simp [afterWhole, hpoint, hfraction]
    rw [hfraction] at hempty
    simp only [htext, hhead, Bool.false_eq_true, if_false, hempty]
    rw [Scale.ofText?_text h.scale, ← hpoint, ← hfraction]
    rfl
  | true =>
    have htext : q.afterWhole = '.' :: (q.fraction ++ q.scale.text) := by
      simp [afterWhole, hpoint]
    simp only [htext, List.head?_cons, beq_self_eq_true, if_true, List.tail_cons,
      Text.takeWhile_append_of_head h.fraction hscale,
      Text.dropWhile_append_of_head h.fraction hscale]
    rw [hempty, if_neg (by decide), Scale.ofText?_text h.scale, ← hpoint]
    rfl

end Spelling

/-! ### Values -/

/-- The factor of a sign. -/
def Sign.factor : Sign → ℚ
  | minus => -1
  | _ => 1

/-- The factor that a suffix stands for: a power of two for a binary one, and of ten for a
decimal one. -/
def Suffix.factor : Suffix → ℚ
  | kibi => 2 ^ 10
  | mebi => 2 ^ 20
  | gibi => 2 ^ 30
  | tebi => 2 ^ 40
  | pebi => 2 ^ 50
  | exbi => 2 ^ 60
  | nano => 1 / 10 ^ 9
  | micro => 1 / 10 ^ 6
  | milli => 1 / 10 ^ 3
  | kilo => 10 ^ 3
  | mega => 10 ^ 6
  | giga => 10 ^ 9
  | tera => 10 ^ 12
  | peta => 10 ^ 15
  | exa => 10 ^ 18

theorem Suffix.factor_eq (s : Suffix) :
  s.factor = s.multiplier.1 * 10 ^ s.multiplier.2
  := by
  cases s <;> norm_num [factor, multiplier]

/-- The power of ten that a scale is written with. -/
def Scale.exponent : Scale → ℤ
  | .power _ sign digits => exponentValue sign digits
  | _ => 0

/-- The factor that a scale stands for. -/
def Scale.factor : Scale → ℚ
  | .unit => 1
  | .suffix s => s.factor
  | .power _ sign digits => 10 ^ exponentValue sign digits

namespace Spelling

/-- The rational number that a spelling denotes. -/
def exact (q : Spelling) : ℚ :=
  q.sign.factor * (Text.decimalValue (q.whole ++ q.fraction) / 10 ^ q.fraction.length)
    * q.scale.factor

variable {q : Spelling} {v : Decimal}

theorem exact_eq (q : Spelling) :
  q.exact = q.number.toRat * q.scale.factor
  := by
  simp only [exact, Decimal.toRat, number, Decimal.size, zpow_neg, zpow_natCast, div_eq_mul_inv]
  cases q.sign <;> simp [Sign.factor]

/-- A spelling without scale has the exact value of its number. -/
theorem exact_of_unit (h : q.scale = .unit) :
  q.exact = q.number.toRat
  := by
  rw [exact_eq, h, Scale.factor, mul_one]

/-- With a scale, the value of a spelling is brought within the standard precision, from a number
of the exact value. -/
theorem exists_value?_eq_of_scale (h : q.scale ≠ .unit) :
  ∃ d : Decimal, d.toRat = q.exact ∧ d.negative = q.number.negative
    ∧ q.value? = if q.scale.exponent.natAbs ≤ Precision.standard.maxShift then
        Precision.standard.fit d else none
  := by
  rw [exact_eq]
  cases hscale : q.scale with
  | unit => contradiction
  | suffix s =>
    use q.number.scale s.multiplier.1 s.multiplier.2
    rw [Decimal.toRat_scale, Scale.factor, Suffix.factor_eq]
    refine ⟨rfl, rfl, ?_⟩
    simp only [value?, hscale, Precision.multiply]
    exact (if_pos (by decide : ((0 : ℤ).natAbs : ℤ) ≤ Precision.standard.maxShift)).symm
  | power mark sign digits =>
    use q.number.scale 1 (exponentValue sign digits)
    rw [Decimal.toRat_scale, Scale.factor, Nat.cast_one, one_mul]
    refine ⟨rfl, rfl, ?_⟩
    simp only [value?, hscale, Precision.shift_eq]
    rfl

/-- A spelling has the value of its number, or one brought within the standard precision. -/
theorem value?_eq (q : Spelling) :
  ∃ d : Decimal, d.toRat = q.exact
    ∧ (q.value? = some d
      ∨ q.value? = if q.scale.exponent.natAbs ≤ Precision.standard.maxShift then
          Precision.standard.fit d else none)
  := by
  by_cases hscale : q.scale = .unit
  · use q.number
    refine ⟨(exact_of_unit hscale).symm, .inl ?_⟩
    simp only [value?, hscale]
  · obtain ⟨d, hd, -, hvalue⟩ := exists_value?_eq_of_scale hscale
    exact ⟨d, hd, .inr hvalue⟩

/-- The value of a spelling reads its exact value. -/
theorem reads_of_value? (hv : q.value? = some v) :
  Precision.standard.Reads q.exact v
  := by
  obtain ⟨d, hd, hvalue | hvalue⟩ := q.value?_eq
  · left
    obtain rfl := Option.some.inj (hvalue.symm.trans hv)
    exact hd
  · right
    rw [hvalue, Option.ite_none_right_eq_some] at hv
    exact ⟨d, hd, Precision.toRat_of_fit hv.2⟩

/-- A spelling has a value if the standard precision holds its exact value, and neither this nor
the power of ten is too large. -/
theorem exists_value? (hexact : Precision.standard.Holds q.exact)
    (hshift : q.scale.exponent.natAbs ≤ Precision.standard.maxShift)
    (hlt : |q.exact| < 10 ^ (Precision.standard.maxExponent + 1)) :
  ∃ v, q.value? = some v
  := by
  obtain ⟨d, hd, hvalue | hvalue⟩ := q.value?_eq
  · exact ⟨d, hvalue⟩
  · rw [hvalue, if_pos hshift]
    rw [← hd] at hexact hlt
    exact Precision.exists_fit hexact hlt

end Spelling

end Quantity

end PodTable
