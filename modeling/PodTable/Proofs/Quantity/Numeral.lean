import PodTable.Proofs.Number.Shortest
import PodTable.Proofs.Quantity.Amount
import PodTable.Proofs.Text.Digits

/-!
# Numbers and their texts

The numeral of an integer and the text of a finite floating point number are texts of well-formed
spellings, whose values are the values of the numbers, digit for digit. The power of ten in the
text of a floating point number is applied in the standard precision, which keeps a numeral of so
few digits.
-/

namespace PodTable

namespace Quantity

/-- A text of a well-formed spelling without blanks spells it. -/
theorem Spelling.IsWellFormed.spells {q : Spelling} (h : q.IsWellFormed)
    (hblank : ∀ c ∈ q.text, Text.isBlank c = false) :
  q.Spells (String.ofList q.text)
  := by
  use h
  rw [String.toList_ofList, Text.trim_eq_self hblank]

/-! ### Integers -/

/-- The spelling of an integer. -/
def Spelling.ofInt (i : ℤ) : Spelling :=
  ⟨if i < 0 then .minus else .unsigned, Text.digits i.natAbs, false, [], .unit⟩

theorem text_ofInt (i : ℤ) :
  String.ofList (Spelling.ofInt i).text = Text.numeral i
  := by
  unfold Spelling.ofInt Spelling.text Text.numeral
  split <;> simp [Sign.text, Scale.text]

theorem isWellFormed_ofInt (i : ℤ) :
  (Spelling.ofInt i).IsWellFormed
  where
  whole := List.all_eq_true.mpr fun _ hc =>
    Text.isDigit_of_isAsciiDigit (Text.isAsciiDigit_of_mem_digits hc)
  fraction := rfl
  point _ := rfl
  digits := by
    have := Text.width_pos i.natAbs
    simp only [Spelling.ofInt, List.append_nil]
    exact List.ne_nil_of_length_pos this
  scale := trivial

theorem spells_numeral (i : ℤ) :
  (Spelling.ofInt i).Spells (Text.numeral i)
  := by
  rw [← text_ofInt]
  apply (isWellFormed_ofInt i).spells
  intro c hc
  simp only [Spelling.text, Spelling.ofInt, Scale.text, List.append_nil, Bool.false_eq_true,
    if_false, List.mem_append] at hc
  rcases hc with hsign | hdigit
  · split at hsign
    · obtain rfl := List.mem_singleton.mp hsign
      decide
    · cases hsign
  · exact Text.isBlank_of_isAsciiDigit (Text.isAsciiDigit_of_mem_digits hdigit)

/-- An integer and its numeral have the same value. -/
theorem value_numeral (i : ℤ) :
  value (.text (Text.numeral i)) = .ok (Decimal.ofInt i)
  := by
  have hnumber : (Spelling.ofInt i).number = Decimal.ofInt i := by
    simp only [Spelling.number, Spelling.ofInt, Decimal.ofInt, List.append_nil,
      Text.decimalValue_digits]
    split <;> simp_all
  rw [value, valueWithin_text (spells_numeral i), ← hnumber]
  rfl

end Quantity

/-! ### Floating point numbers -/

namespace Layout

open Quantity

/-- The spelling of a numeral. -/
def spelling (l : Layout) : Spelling where
  sign := if l.negative then .minus else .unsigned
  whole := l.whole
  point := !l.fraction.isEmpty
  fraction := l.fraction
  scale :=
    match l.power with
    | none => .unit
    | some e => .power 'e' (if e < 0 then .minus else .plus) (Text.zeroPad 2 (Text.digits e.natAbs))

/-- The numeral has digits in both of its parts, and with a power of ten it has few of them, and
the power is not far from zero. -/
structure IsNumeral (l : Layout) : Prop where
  whole : ∀ c ∈ l.whole, Text.isAsciiDigit c = true
  fraction : ∀ c ∈ l.fraction, Text.isAsciiDigit c = true
  ne_nil : l.whole ≠ []
  power : ∀ e ∈ l.power, Text.decimalValue (l.whole ++ l.fraction) < 10 ^ 28
    ∧ l.fraction.length ≤ 28 ∧ e.natAbs < 10 ^ 4

variable {l : Layout}

theorem text_spelling (l : Layout) :
  l.spelling.text = l.text
  := by
  have hpower : l.spelling.scale.text = powerText l.power := by
    unfold spelling powerText
    cases l.power with
    | none => rfl
    | some e =>
      simp only [Scale.text]
      split <;> rfl
  rw [Spelling.text, hpower]
  unfold spelling text
  cases l.negative <;> cases l.fraction <;> simp [Sign.text]

theorem isWellFormed_spelling (h : l.IsNumeral) :
  l.spelling.IsWellFormed
  where
  whole := List.all_eq_true.mpr fun c hc => Text.isDigit_of_isAsciiDigit (h.whole c hc)
  fraction := List.all_eq_true.mpr fun c hc => Text.isDigit_of_isAsciiDigit (h.fraction c hc)
  point hpoint := by simpa [spelling] using hpoint
  digits := by simp [spelling, h.ne_nil]
  scale := by
    unfold spelling
    cases l.power with
    | none => trivial
    | some e =>
      refine ⟨.inl rfl, ?_, ?_⟩
      · have := Text.width_pos e.natAbs
        apply List.append_ne_nil_of_right_ne_nil
        exact List.ne_nil_of_length_pos this
      · rw [List.all_eq_true]
        intro c hc
        exact Text.isDigit_of_isAsciiDigit (Text.isAsciiDigit_of_mem_zeroPad hc)

/-- No character of a numeral is blank. -/
theorem isBlank_of_mem_text (h : l.IsNumeral) :
  ∀ c ∈ l.text, Text.isBlank c = false
  := by
  intro c hc
  simp only [text, List.mem_append] at hc
  rcases hc with ((hsign | hwhole) | hfraction) | hpower
  · split at hsign
    · obtain rfl := List.mem_singleton.mp hsign
      decide
    · cases hsign
  · exact Text.isBlank_of_isAsciiDigit (h.whole c hwhole)
  · split at hfraction
    · cases hfraction
    · rcases List.mem_cons.mp hfraction with rfl | hdigit
      · decide
      · exact Text.isBlank_of_isAsciiDigit (h.fraction c hdigit)
  · unfold powerText at hpower
    split at hpower
    · cases hpower
    · rcases List.mem_cons.mp hpower with rfl | hrest
      · decide
      rcases List.mem_cons.mp hrest with rfl | hdigit
      · split <;> decide
      · exact Text.isBlank_of_isAsciiDigit (Text.isAsciiDigit_of_mem_zeroPad hdigit)

theorem spells_text (h : l.IsNumeral) :
  l.spelling.Spells (String.ofList l.text)
  := by
  have hblank := isBlank_of_mem_text h
  rw [← text_spelling] at hblank ⊢
  apply (isWellFormed_spelling h).spells hblank

/-- The power of ten of a spelling is that of the numeral. -/
theorem exponentValue_eq (e : ℤ) :
  exponentValue (if e < 0 then .minus else .plus) (Text.zeroPad 2 (Text.digits e.natAbs)) = e
  := by
  unfold exponentValue Text.zeroPad
  rw [Text.decimalValue_replicate_append, Text.decimalValue_digits]
  split
  · rename_i hsign
    split at hsign
    · omega
    · cases hsign
  · rename_i hsign
    split at hsign
    · contradiction
    · omega

theorem number_spelling (l : Layout) :
  l.spelling.number = ⟨l.negative, Text.decimalValue (l.whole ++ l.fraction), -l.fraction.length⟩
  := by
  unfold spelling Spelling.number
  cases l.negative <;> simp

/-- A numeral and its spelling have the same value, digit for digit. -/
theorem value?_spelling (h : l.IsNumeral) :
  l.spelling.value? = some l.value
  := by
  cases hpower : l.power with
  | none =>
    have hscale : l.spelling.scale = .unit := by simp [spelling, hpower]
    simp only [Spelling.value?, hscale, number_spelling, value, hpower, Option.getD_none, zero_sub]
  | some e =>
    obtain ⟨hdigits, hlength, he⟩ := h.power e hpower
    have hscale : l.spelling.scale = .power 'e' (if e < 0 then .minus else .plus)
        (Text.zeroPad 2 (Text.digits e.natAbs)) := by
      simp [spelling, hpower]
    have hmax : Precision.standard.maxShift = 2000054 := by decide
    have htiny : Precision.standard.tiny = -1000026 := by decide
    have hwidth : Text.width (Text.decimalValue (l.whole ++ l.fraction)) ≤ 28 := by
      rwa [Text.width_le_iff (by decide)]
    have hvalue : (l.spelling.number.scale 1 e) = l.value := by
      rw [number_spelling]
      simp only [Decimal.scale, value, hpower, Option.getD_some, mul_one, Decimal.mk.injEq,
        true_and]
      omega
    simp only [Spelling.value?, hscale, exponentValue_eq, Precision.shift_eq, hvalue]
    rw [if_pos (by omega)]
    apply Precision.fit_eq_self hdigits
    · simp only [value, hpower, Option.getD_some, htiny]
      omega
    · simp only [Decimal.adjusted, value, hpower, Option.getD_some]
      have : Precision.standard.maxExponent = 999999 := rfl
      omega

/-- The power of ten of a numeral is short enough to be read. -/
theorem overlong?_spelling (h : l.IsNumeral) :
  l.spelling.scale.overlong? (some Literal.digitLimit) = none
  := by
  unfold spelling
  cases hpower : l.power with
  | none => rfl
  | some e =>
    obtain ⟨-, -, he⟩ := h.power e hpower
    have hwidth : (Text.digits e.natAbs).length ≤ 4 := by
      exact (Text.width_le_iff (by decide)).mpr he
    have hlength : (Text.zeroPad 2 (Text.digits e.natAbs)).length ≤ Literal.digitLimit := by
      rw [Text.zeroPad, List.length_append, List.length_replicate]
      unfold Literal.digitLimit
      omega
    simp only [Scale.overlong?, Option.any_some, decide_eq_true_eq]
    rw [if_neg (not_lt.mpr hlength)]

/-- A numeral and its text have the same value. -/
theorem value_text (h : l.IsNumeral) :
  Quantity.value (.text (String.ofList l.text)) = .ok l.value
  := by
  rw [Quantity.value, valueWithin_text (spells_text h), overlong?_spelling h, value?_spelling h]

/-! ### Numerals of magnitudes -/

/-- Digits with a point among them or beside them, or with a power of ten, are a numeral. -/
theorem isNumeral_layoutDigits (negative : Bool) {cs : List Char} {k : ℤ}
    (hcs : ∀ c ∈ cs, Text.isAsciiDigit c = true) (hne : cs ≠ []) (hlength : cs.length ≤ 28)
    (hvalue : Text.decimalValue cs < 10 ^ 28) (hk : (k - 1).natAbs < 10 ^ 4) :
  (Binary64.layoutDigits negative cs k).IsNumeral
  := by
  have htake : ∀ n, ∀ c ∈ cs.take n, Text.isAsciiDigit c = true :=
    fun n c hc => hcs c (List.mem_of_mem_take hc)
  have hdrop : ∀ n, ∀ c ∈ cs.drop n, Text.isAsciiDigit c = true :=
    fun n c hc => hcs c (List.mem_of_mem_drop hc)
  have hzero : ∀ c ∈ ['0'], Text.isAsciiDigit c = true :=
    fun _ hc => Text.isAsciiDigit_of_mem_zeros (n := 1) hc
  unfold Binary64.layoutDigits
  split
  · refine ⟨htake 1, hdrop 1, by simp [hne], ?_⟩
    rintro e ⟨⟩
    refine ⟨by rwa [List.take_append_drop], ?_, hk⟩
    simp only [List.length_drop]
    omega
  split
  · refine ⟨hzero, ?_, by simp, by rintro e ⟨⟩⟩
    intro c hc
    rcases List.mem_append.mp hc with hzeros | hdigit
    · exact Text.isAsciiDigit_of_mem_zeros hzeros
    · exact hcs c hdigit
  split
  · refine ⟨?_, hzero, by simp [hne], by rintro e ⟨⟩⟩
    intro c hc
    rcases List.mem_append.mp hc with hdigit | hzeros
    · exact hcs c hdigit
    · exact Text.isAsciiDigit_of_mem_zeros hzeros
  · refine ⟨htake _, hdrop _, ?_, by rintro e ⟨⟩⟩
    simp only [ne_eq, List.take_eq_nil_iff, hne, or_false]
    omega

theorem isNumeral_layoutOf (negative : Bool) (x : Magnitude) :
  (Binary64.layoutOf negative x).IsNumeral
  := by
  unfold Binary64.layoutOf
  split
  · have hzero : ∀ c ∈ ['0'], Text.isAsciiDigit c = true :=
      fun _ hc => Text.isAsciiDigit_of_mem_zeros (n := 1) hc
    exact ⟨hzero, hzero, List.cons_ne_nil _ _, by rintro e ⟨⟩⟩
  · rename_i hx
    have hbounded := Magnitude.isBounded_shortest hx
    generalize x.shortest = r at hbounded ⊢
    obtain ⟨m, k⟩ := r
    obtain ⟨hm, hlow, hhigh⟩ := hbounded
    simp only at hm hlow hhigh ⊢
    have hpos := Text.width_pos m
    have hwidth : (Text.digits m).length ≤ 18 := (Text.width_le_iff (by decide)).mpr hm
    apply isNumeral_layoutDigits
    · exact fun c hc => Text.isAsciiDigit_of_mem_digits hc
    · exact List.ne_nil_of_length_pos hpos
    · omega
    · rw [Text.decimalValue_digits]
      omega
    · omega

end Layout

namespace Quantity

/-- A finite floating point number and its text have the same value. -/
theorem value_text_finite (negative : Bool) (x : Magnitude) :
  value (.text (Binary64.finite negative x).text)
    = .ok (Binary64.layoutOf negative x).value
  := Layout.value_text (Layout.isNumeral_layoutOf negative x)

/-! ### Amounts by value -/

/-- The amounts of any two texts whose exact values have the property `P` compare as the exact
values do. -/
def ComparesByValue (P : ℚ → Prop) (amount : Document → Except Refusal ℤ) : Prop :=
  ∀ (s t : String) (q r : Spelling) (i j : ℤ), q.Spells s → r.Spells t → P q.exact → P r.exact →
    amount (.text s) = .ok i → amount (.text t) = .ok j →
    (q.exact ≤ r.exact → i ≤ j) ∧ (q.exact = r.exact → i = j)

theorem comparesByValue (limit : Option ℕ) (k : ℕ) :
  ComparesByValue (fun x => k = 0 ∨ Precision.standard.IsNormal x)
    (fun source => (valueWithin limit source).bind (units (10 ^ k)))
  := by
  intro s t q r i j hq hr hx hy hi hj
  constructor
  · exact amount_mono hq hr hx hy hi hj
  · intro heq
    apply le_antisymm
    · exact amount_mono hq hr hx hy hi hj heq.le
    · exact amount_mono hr hq hy hx hj hi heq.ge

/-- Amounts are compared by value. The amounts of memory of two texts compare as the exact values
do, so texts of one value have one amount. So do amounts of processing, where the exact values are
zero or not too small. An integer has the value of its numeral, and a finite floating point number
has the value of its text, digit for digit. -/
theorem amounts_by_value (limit : Option ℕ) :
  ComparesByValue (fun _ => True) (bytesWithin limit)
  ∧ ComparesByValue (fun x => x = 0 ∨ 10 ^ (-999999 : ℤ) ≤ |x|) (millicoresWithin limit)
  ∧ (∀ i, ∃ d, value (.int i) = .ok d ∧ value (.text (Text.numeral i)) = .ok d)
  ∧ ∀ negative x, ∃ d, value (.float (.finite negative x)) = .ok d
    ∧ value (.text (Binary64.finite negative x).text) = .ok d
  := by
  refine ⟨?_, ?_, ?_, ?_⟩
  · intro s t q r i j hq hr _ _ hi hj
    exact comparesByValue limit 0 s t q r i j hq hr (.inl rfl) (.inl rfl) hi hj
  · intro s t q r i j hq hr hx hy hi hj
    exact comparesByValue limit 3 s t q r i j hq hr (.inr hx) (.inr hy) hi hj
  · intro i
    exact ⟨Decimal.ofInt i, rfl, value_numeral i⟩
  · intro negative x
    exact ⟨(Binary64.layoutOf negative x).value, rfl, value_text_finite negative x⟩

theorem amounts_of_kilo_and_kibi :
  ∃ i j : ℤ, bytesWithin none (.text "1k") = .ok i ∧ bytesWithin none (.text "1.0Ki") = .ok j
    ∧ i ≤ j
  := by
  have hkilo : Spelling.Spells ⟨.unsigned, ['1'], false, [], .suffix .kilo⟩ "1k" :=
    ⟨⟨by decide, by decide, by decide, by decide, trivial⟩, by decide⟩
  have hkibi : Spelling.Spells ⟨.unsigned, ['1'], true, ['0'], .suffix .kibi⟩ "1.0Ki" :=
    ⟨⟨by decide, by decide, by decide, by decide, trivial⟩, by decide⟩
  have hvalue : Text.decimalValue ['1'] = 1 := by decide
  have hvalue' : Text.decimalValue ['1', '0'] = 10 := by decide
  use 1000, 1024, rfl, rfl
  apply ((amounts_by_value none).1 _ _ _ _ _ _ hkilo hkibi trivial trivial rfl rfl).1
  norm_num [Spelling.exact, Sign.factor, Scale.factor, Suffix.factor, hvalue, hvalue']

end Quantity

end PodTable
