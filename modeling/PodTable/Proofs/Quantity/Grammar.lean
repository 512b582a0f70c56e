import PodTable.Proofs.Number.Nearest
import PodTable.Proofs.Quantity.Amount

/-!
# Which texts are quantities

A text is a quantity when it spells one, between any blanks, and it spells no two. Only the mark
of a power of ten needs a rule for that, `E` being a suffix too: before a sign or a digit it is the
mark.

A quantity without a scale has the value of its number, however long that is. A scale makes the
value be rounded, and it is refused only for a power of ten that is written too large, or for a
rounding that is.
-/

namespace PodTable

namespace Quantity

/-! ### Readings -/

/-- A text is its sign and what follows. -/
theorem Sign.text_append_drop (cs : List Char) :
  (ofText cs).text ++ cs.drop (ofText cs).text.length = cs
  := by
  unfold ofText
  split <;> rfl

/-- The text is one of a well-formed scale. -/
theorem Scale.spells_of_ofText? {cs : List Char} {s : Scale} (h : ofText? cs = some s) :
  s.IsWellFormed ∧ s.text = cs
  := by
  unfold ofText? at h
  split at h
  · rename_i hempty
    obtain rfl := Option.some.inj h
    exact ⟨trivial, (List.isEmpty_iff.mp hempty).symm⟩
  split at h
  · rename_i s' hfind
    obtain rfl := Option.some.inj h
    have hmatch := List.find?_some hfind
    exact ⟨trivial, beq_iff_eq.mp hmatch⟩
  · cases cs with
    | nil => cases h
    | cons mark cs =>
      simp only [powerOfText?, Option.ite_none_right_eq_some, Option.some.injEq] at h
      obtain ⟨hpower, rfl⟩ := h
      exact ⟨hpower, by rw [text, Sign.text_append_drop]⟩

/-- No two scales have one text. -/
theorem Scale.text_injective {s s' : Scale} (h : s.IsWellFormed) (h' : s'.IsWellFormed)
    (htext : s.text = s'.text) :
  s = s'
  := by
  apply Option.some.inj
  rw [← ofText?_text h, htext, ofText?_text h']

namespace Spelling

variable {q r : Spelling} {s : String}

/-- The text is one of a well-formed spelling. -/
theorem spells_of_ofText? {cs : List Char} (h : ofText? cs = some q) :
  q.IsWellFormed ∧ q.text = cs
  := by
  have hsign := Sign.text_append_drop cs
  simp only [ofText?] at h
  generalize cs.drop (Sign.ofText cs).text.length = unsigned at h hsign
  generalize Sign.ofText cs = sign at h hsign
  have hwhole : (unsigned.takeWhile Text.isDigit).all Text.isDigit = true := List.all_takeWhile
  have hrest := List.takeWhile_append_dropWhile (p := Text.isDigit) (l := unsigned)
  generalize unsigned.takeWhile Text.isDigit = whole at h hwhole hrest
  generalize unsigned.dropWhile Text.isDigit = rest at h hrest
  subst hrest hsign
  by_cases hpoint : rest.head? = some '.'
  · obtain ⟨rest, rfl⟩ := List.head?_eq_some_iff.mp hpoint
    have hfraction : (rest.takeWhile Text.isDigit).all Text.isDigit = true := List.all_takeWhile
    have hscale := List.takeWhile_append_dropWhile (p := Text.isDigit) (l := rest)
    simp only [List.head?_cons, BEq.rfl, if_true, List.tail_cons] at h
    generalize rest.takeWhile Text.isDigit = fraction at h hfraction hscale
    generalize rest.dropWhile Text.isDigit = scale at h hscale
    subst hscale
    split at h
    · cases h
    rename_i hempty
    obtain ⟨s, hs, rfl⟩ := Option.map_eq_some_iff.mp h
    obtain ⟨hformed, rfl⟩ := Scale.spells_of_ofText? hs
    refine ⟨⟨hwhole, hfraction, by simp, by simpa using hempty, hformed⟩, ?_⟩
    simp [text]
  · have hpoint' : (rest.head? == some '.') = false := by simpa using hpoint
    simp only [hpoint', Bool.false_eq_true, if_false] at h
    split at h
    · cases h
    rename_i hempty
    obtain ⟨s, hs, rfl⟩ := Option.map_eq_some_iff.mp h
    obtain ⟨hformed, rfl⟩ := Scale.spells_of_ofText? hs
    refine ⟨⟨hwhole, rfl, by simp, by simpa using hempty, hformed⟩, ?_⟩
    simp [text]

/-- Reading a text finds the spelling that it spells. -/
theorem spells_iff :
  q.Spells s ↔ ofText? (Text.trim s.toList) = some q
  := by
  constructor
  · rintro ⟨hformed, htext⟩
    rw [htext, ofText?_text hformed]
  · intro h
    obtain ⟨hformed, htext⟩ := spells_of_ofText? h
    exact ⟨hformed, htext.symm⟩

/-- A text spells no two quantities. -/
theorem Spells.unique (hq : q.Spells s) (hr : r.Spells s) :
  q = r
  := by
  rw [spells_iff] at hq hr
  exact Option.some.inj (hq.symm.trans hr)

/-- The text of a spelling before its scale. -/
def numberText (q : Spelling) : List Char :=
  q.sign.text ++ q.whole ++ (if q.point then ['.'] else []) ++ q.fraction

theorem text_eq_numberText_append (q : Spelling) :
  q.text = q.numberText ++ q.scale.text
  := by
  simp [text, numberText]

/-- No mark of a power of ten stands before the scale. -/
theorem notMem_numberText {mark : Char} (h : q.IsWellFormed) (hmark : mark = 'e' ∨ mark = 'E') :
  mark ∉ q.numberText
  := by
  have hdigit : Text.isDigit mark = false := by
    rcases hmark with rfl | rfl <;> decide
  have hsign : mark ∉ q.sign.text := by
    cases q.sign <;> rcases hmark with rfl | rfl <;> decide
  have hpoint : mark ∉ (if q.point then ['.'] else []) := by
    cases q.point <;> rcases hmark with rfl | rfl <;> decide
  simp only [numberText, List.mem_append, not_or]
  refine ⟨⟨⟨hsign, ?_⟩, hpoint⟩, ?_⟩
  · intro hmem
    exact Text.ne_of_isDigit (List.all_eq_true.mp h.whole mark hmem) hdigit rfl
  · intro hmem
    exact Text.ne_of_isDigit (List.all_eq_true.mp h.fraction mark hmem) hdigit rfl

end Spelling

/-- No mark of a power of ten stands in a scale but at its beginning. -/
theorem Scale.notMem_tail {s : Scale} {mark : Char} (h : s.IsWellFormed)
    (hmark : mark = 'e' ∨ mark = 'E') :
  mark ∉ s.text.tail
  := by
  cases s with
  | unit => simp [text]
  | suffix s => cases s <;> rcases hmark with rfl | rfl <;> decide
  | power mark' sign digits =>
    have hdigit : Text.isDigit mark = false := by
      rcases hmark with rfl | rfl <;> decide
    have hsign : mark ∉ sign.text := by
      cases sign <;> rcases hmark with rfl | rfl <;> decide
    simp only [text, List.tail_cons, List.mem_append, not_or]
    refine ⟨hsign, ?_⟩
    intro hmem
    exact Text.ne_of_isDigit (List.all_eq_true.mp h.2.2 mark hmem) hdigit rfl

namespace Spelling

variable {q : Spelling} {s : String}

/-- A text that ends in a scale with a mark has that scale. -/
theorem Spells.scale_eq {cs tail : List Char} {mark : Char} {scale : Scale} (h : q.Spells s)
    (hmark : mark = 'e' ∨ mark = 'E') (hscale : scale.IsWellFormed)
    (htext : scale.text = mark :: tail) (hs : Text.trim s.toList = cs ++ scale.text) :
  q.scale = scale
  := by
  obtain ⟨hformed, heq⟩ := h
  apply Scale.text_injective hformed.scale hscale
  rw [hs, text_eq_numberText_append, htext, List.append_eq_append_iff] at heq
  rw [htext]
  rcases heq with ⟨before, hcs, hrest⟩ | ⟨before, hnumber, hrest⟩
  · cases before with
    | nil => simpa using hrest.symm
    | cons c before =>
      exfalso
      obtain ⟨rfl, -⟩ := List.cons.inj hrest
      apply notMem_numberText hformed hmark
      rw [hcs]
      simp
  · cases before with
    | nil => simpa using hrest
    | cons c before =>
      exfalso
      apply Scale.notMem_tail hformed.scale hmark
      rw [hrest]
      simp

end Spelling

/-! ### Values -/

namespace Spelling

variable {q : Spelling} {v : Decimal}

/-- The power of ten is written beyond `2000054`, or the value is rounded, to twenty-eight digits,
and the rounding is `10 ^ 1000000` or more. -/
def IsTooLarge (q : Spelling) : Prop :=
  2000054 < q.scale.exponent.natAbs
    ∨ q.scale ≠ .unit
      ∧ ∃ y, IsNearestEven (Precision.HasDigits 28) q.exact y ∧ 10 ^ (1000000 : ℤ) ≤ |y|

/-- The number is a value of the spelling, with its sign. Without a scale it is the number that is
written, digit for digit. With one it is the nearest number of twenty-eight digits that has none
below the least exponent, and where the exact value is not among the smallest it is the nearest one
of all of twenty-eight digits. -/
structure IsValue (q : Spelling) (v : Decimal) : Prop where
  negative : v.negative = decide (q.sign = .minus)
  unit : q.scale = .unit → v = q.number ∧ v.toRat = q.exact
  scaled : q.scale ≠ .unit → v.coefficient < 10 ^ 28
    ∧ IsNearestEven Precision.standard.Holds q.exact v.toRat
  normal : q.scale ≠ .unit → q.exact = 0 ∨ 10 ^ (-999999 : ℤ) ≤ |q.exact| →
    IsNearestEven (Precision.HasDigits 28) q.exact v.toRat

/-- A spelling is without a value where it is too large. -/
theorem value?_eq_none_iff :
  q.value? = none ↔ q.IsTooLarge
  := by
  by_cases hscale : q.scale = .unit
  · simp [value?, IsTooLarge, hscale, Scale.exponent]
  obtain ⟨d, hd, -, hvalue⟩ := exists_value?_eq_of_scale hscale
  have hshift : 2000054 < q.scale.exponent.natAbs
      ↔ ¬ (q.scale.exponent.natAbs ≤ Precision.standard.maxShift) := by
    have : Precision.standard.maxShift = 2000054 := by decide
    omega
  have hfit : Precision.standard.fit d = none
      ↔ ∃ y, IsNearestEven (Precision.HasDigits 28) q.exact y ∧ 10 ^ (1000000 : ℤ) ≤ |y| := by
    rw [← hd]
    exact Precision.fit_eq_none_iff_exists
  rw [hvalue, IsTooLarge, hshift, ← hfit]
  simp only [ite_eq_right_iff, hscale, ne_eq, not_false_eq_true, true_and]
  tauto

theorem isValue_of_value? (h : q.value? = some v) :
  q.IsValue v
  := by
  by_cases hscale : q.scale = .unit
  · simp only [value?, hscale, Option.some.injEq] at h
    subst h
    exact ⟨rfl, fun _ => ⟨rfl, (exact_of_unit hscale).symm⟩, absurd hscale, absurd hscale⟩
  · obtain ⟨d, hd, hnegative, hvalue⟩ := exists_value?_eq_of_scale hscale
    rw [hvalue, Option.ite_none_right_eq_some] at h
    obtain ⟨hsign, hdigits, -⟩ := Precision.bounds_of_fit h.2
    have hnearest := Precision.isNearestEven_round Precision.standard d
    rw [← Precision.toRat_of_fit h.2, hd] at hnearest
    constructor
    · exact hsign.trans hnegative
    · intro hunit
      exact absurd hunit hscale
    · intro _
      exact ⟨hdigits, hnearest⟩
    · intro _ hexact
      have hnormal : Precision.standard.IsNormal q.exact := hexact
      exact hnormal.isNearestEven hnearest

end Spelling

section

variable {s : String} {q : Spelling}

/-- A text that spells no quantity is refused as invalid. -/
theorem valueWithin_text_of_not_spells (limit : Option ℕ) (h : ¬ ∃ q : Spelling, q.Spells s) :
  valueWithin limit (.text s) = .error (.invalid (.text s))
  := by
  have hread : Spelling.ofText? (Text.trim s.toList) = none := by
    rw [Option.eq_none_iff_forall_ne_some]
    intro q hq
    exact h ⟨q, Spelling.spells_iff.mpr hq⟩
  have hvalue : valueWithin limit (.text s) = ofTextWithin limit s := rfl
  rw [hvalue, ofTextWithin, hread]

/-- A text that spells a quantity is refused where the quantity is too large, and has its value
otherwise, powers of ten being read from any number of digits. -/
theorem Spelling.Spells.valueWithin_cases (h : q.Spells s) :
  q.IsTooLarge ∧ valueWithin none (.text s) = .error (.tooLarge (.text s))
    ∨ ¬ q.IsTooLarge ∧ ∃ v, valueWithin none (.text s) = .ok v ∧ q.IsValue v
  := by
  have hlong : q.scale.overlong? none = none := by
    unfold Scale.overlong?
    split <;> rfl
  rw [valueWithin_text h, hlong, ← Spelling.value?_eq_none_iff]
  cases hvalue : q.value? with
  | none =>
    left
    exact ⟨rfl, rfl⟩
  | some v =>
    right
    exact ⟨nofun, v, rfl, Spelling.isValue_of_value? hvalue⟩

end

/-- What a text is as a quantity, with powers of ten of any number of digits. It is refused as
invalid exactly where it spells no quantity. It spells no two: a text that ends in `E` has the
suffix, and one that ends in a mark before digits, with a sign or without, has the power of ten. A
spelled quantity is refused exactly where it is too large, and has its value otherwise. -/
theorem value_of_text (s : String) :
  (valueWithin none (.text s) = .error (.invalid (.text s)) ↔ ¬ ∃ q : Spelling, q.Spells s)
  ∧ (∀ r, valueWithin none (.text s) = .error r → r = .invalid (.text s) ∨ r = .tooLarge (.text s))
  ∧ ∀ q : Spelling, q.Spells s →
    (∀ r : Spelling, r.Spells s → r = q)
    ∧ (∀ cs, Text.trim s.toList = cs ++ ['E'] → q.scale = .suffix .exa)
    ∧ (∀ cs mark sign digits, (Scale.power mark sign digits).IsWellFormed →
        Text.trim s.toList = cs ++ mark :: (sign.text ++ digits) →
        q.scale = .power mark sign digits)
    ∧ (valueWithin none (.text s) = .error (.tooLarge (.text s)) ↔ q.IsTooLarge)
    ∧ (¬ q.IsTooLarge → ∃ v, valueWithin none (.text s) = .ok v ∧ q.IsValue v)
  := by
  by_cases hspells : ∃ q : Spelling, q.Spells s
  · obtain ⟨q, hq⟩ := hspells
    refine ⟨?_, ?_, ?_⟩
    · constructor
      · intro hinvalid
        rcases hq.valueWithin_cases with ⟨-, hvalue⟩ | ⟨-, v, hvalue, -⟩
        · cases hvalue.symm.trans hinvalid
        · cases hvalue.symm.trans hinvalid
      · intro hnone
        exact absurd ⟨q, hq⟩ hnone
    · intro r hr
      right
      rcases hq.valueWithin_cases with ⟨-, hvalue⟩ | ⟨-, v, hvalue, -⟩
      · cases hvalue.symm.trans hr
        rfl
      · cases hvalue.symm.trans hr
    · intro q hq
      refine ⟨fun r hr => hr.unique hq, ?_, ?_, ?_, ?_⟩
      · intro cs hs
        exact hq.scale_eq (.inr rfl) trivial rfl hs
      · intro cs mark sign digits hpower hs
        exact hq.scale_eq hpower.1 hpower rfl hs
      · rcases hq.valueWithin_cases with ⟨hlarge, hvalue⟩ | ⟨hlarge, v, hvalue, -⟩
        · exact iff_of_true hvalue hlarge
        · refine iff_of_false ?_ hlarge
          rw [hvalue]
          nofun
      · intro hlarge
        rcases hq.valueWithin_cases with ⟨hlarge', -⟩ | ⟨-, hvalue⟩
        · contradiction
        · exact hvalue
  · have hvalue := valueWithin_text_of_not_spells none hspells
    refine ⟨iff_of_true hvalue hspells, ?_, fun q hq => absurd ⟨q, hq⟩ hspells⟩
    intro r hr
    left
    cases hvalue.symm.trans hr
    rfl

theorem value_of_exa_and_thousand :
  (∃ v, valueWithin none (.text "1E") = .ok v
    ∧ Spelling.IsValue ⟨.unsigned, ['1'], false, [], .suffix .exa⟩ v)
  ∧ ∃ v, valueWithin none (.text " 1E3") = .ok v
    ∧ Spelling.IsValue ⟨.unsigned, ['1'], false, [], .power 'E' .unsigned ['3']⟩ v
  := by
  have hexa : Spelling.Spells ⟨.unsigned, ['1'], false, [], .suffix .exa⟩ "1E" :=
    ⟨⟨by decide, by decide, by decide, by decide, trivial⟩, by decide⟩
  have hthousand :
      Spelling.Spells ⟨.unsigned, ['1'], false, [], .power 'E' .unsigned ['3']⟩ " 1E3" :=
    ⟨⟨by decide, by decide, by decide, by decide, .inr rfl, by decide, by decide⟩, by decide⟩
  obtain ⟨-, -, -, -, hvalue⟩ := (value_of_text "1E").2.2 _ hexa
  obtain ⟨-, -, -, -, hvalue'⟩ := (value_of_text " 1E3").2.2 _ hthousand
  constructor
  · apply hvalue
    rw [← Spelling.value?_eq_none_iff]
    decide
  · apply hvalue'
    rw [← Spelling.value?_eq_none_iff]
    decide

/-- A number of a single digit is rounded to zero where the digit stands below the least
exponent. -/
theorem value_of_underflow :
  ∃ (q : Spelling) (v : Decimal), q.Spells "1e-1000027" ∧ q.scale ≠ .unit
    ∧ valueWithin none (.text "1e-1000027") = .ok v
    ∧ ¬ IsNearestEven (Precision.HasDigits 28) q.exact v.toRat
  := by
  have hspells : Spelling.Spells
      ⟨.unsigned, ['1'], false, [], .power 'e' .minus ['1', '0', '0', '0', '0', '2', '7']⟩
      "1e-1000027" :=
    ⟨⟨by decide, by decide, by decide, by decide, .inl rfl, by decide, by decide⟩, by decide⟩
  refine ⟨_, ⟨false, 0, -1000026⟩, hspells, by decide, ?_, ?_⟩
  · rw [valueWithin_text hspells]
    rfl
  · intro hnearest
    have hexact : Spelling.exact
        ⟨.unsigned, ['1'], false, [], .power 'e' .minus ['1', '0', '0', '0', '0', '2', '7']⟩
        = 10 ^ (-1000027 : ℤ) := by
      have hvalue : Text.decimalValue ['1'] = 1 := by decide
      have hexp : exponentValue .minus ['1', '0', '0', '0', '0', '2', '7'] = -1000027 := by decide
      simp [Spelling.exact, Sign.factor, Scale.factor, hvalue, hexp]
    have hdigits : Precision.HasDigits 28 (10 ^ (-1000027 : ℤ)) :=
      ⟨1, -1000027, by norm_num, by simp⟩
    rw [hexact] at hnearest
    have hzero := hnearest.unique (IsNearestEven.refl hdigits)
    have hpos : (0 : ℚ) < 10 ^ (-1000027 : ℤ) := by positivity
    rw [← hzero, Decimal.toRat_eq_zero_iff.mpr rfl] at hpos
    exact lt_irrefl 0 hpos

end Quantity

end PodTable
