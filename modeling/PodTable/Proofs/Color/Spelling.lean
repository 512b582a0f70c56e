import Mathlib.Data.List.Forall2
import PodTable.Color.Basic
import PodTable.Proofs.Outcome
import PodTable.Proofs.Text.Digits

/-!
# Texts of colors

The texts that denote colors, in lower case and without blanks around them, are a word for the default
color, a name, six hexadecimal digits after a number sign, a number up to 255 of at most three digits,
and a mixture of three such numbers, whose digits may be those of any script and may have white space
around them. `Color.ofText_eq_ok_iff` says that a text is read as a color exactly when it is written
so, and then as this color.
-/

namespace PodTable

/-! ### Digits and white space -/

namespace Text

/-- No digit of any script is white space. -/
theorem isSpace_of_isDigit {c : Char} (h : isDigit c = true) :
  isSpace c = false
  := by
  have hdigits : ∀ z ∈ digitZeros, ∀ k < 10, isSpace (Char.ofNat (z + k)) = false := by
    decide +kernel
  obtain ⟨n, hn⟩ := Option.isSome_iff_exists.mp h
  obtain ⟨z, hz, -⟩ := Option.map_eq_some_iff.mp hn
  have hrange := List.find?_some hz
  simp only [Bool.and_eq_true, decide_eq_true_eq] at hrange
  have hspace := hdigits z (List.mem_of_find?_eq_some hz) (c.toNat - z) (by omega)
  rwa [Nat.add_sub_cancel' hrange.1, Char.ofNat_toNat] at hspace

end Text

namespace Literal

theorem digitIn?_ten (c : Char) :
  digitIn? 10 c = Text.digit? c
  := by
  unfold digitIn?
  cases hdigit : Text.digit? c with
  | some n => simp [Text.digit?_lt hdigit]
  | none =>
    have hascii : Text.isAsciiDigit c = false := by
      by_contra h
      rw [Text.digit?_of_isAsciiDigit (Bool.eq_true_of_not_eq_false h)] at hdigit
      cases hdigit
    simp only [Text.isAsciiDigit, Bool.and_eq_false_iff, decide_eq_false_iff_not] at hascii
    simp only [hexValue?, Option.none_or, Option.bind_eq_none_iff, Bool.and_eq_true,
      decide_eq_true_eq]
    intro n hn
    split_ifs at hn <;> grind

end Literal

namespace Color

/-! ### Layouts -/

/-- Two hexadecimal digits, and their number. -/
inductive HexText : List Char → ℕ → Prop
  | digits {a b : Char} {x y : ℕ} (ha : hexValue? a = some x) (hb : hexValue? b = some y) :
      HexText [a, b] (16 * x + y)

/-- The text of a number in a mixture: digits, maybe with white space around them. -/
inductive PartText : List Char → ℕ → Prop
  | digits {before ds after : List Char} (hbefore : before.all Text.isSpace = true) (hne : ds ≠ [])
      (hdigits : ds.all Text.isDigit = true) (hlength : ds.length ≤ Literal.digitLimit)
      (hafter : after.all Text.isSpace = true) :
      PartText (before ++ ds ++ after) (Text.decimalValue ds)

/-- The text of a color, in lower case and without blanks around it. -/
inductive Spells : List Char → Color → Prop
  | default : Spells "default".toList default
  | name {cs : List Char} {n : Fin 256}
      (hname : colorNames.lookup (String.ofList cs) = some n.val) : Spells cs (indexed n)
  | hexadecimal {rs gs bs : List Char} {red green blue : Fin 256} (hred : HexText rs red)
      (hgreen : HexText gs green) (hblue : HexText bs blue) :
      Spells ("#".toList ++ (rs ++ gs ++ bs)) (mixed red green blue)
  | number {ds : List Char} {n : Fin 256} (hne : ds ≠ []) (hlength : ds.length ≤ 3)
      (hdigits : ds.all Text.isAsciiDigit = true) (hn : n.val = Text.decimalValue ds) :
      Spells ("color(".toList ++ ds ++ [')']) (indexed n)
  | mixture {rs gs bs : List Char} {red green blue : Fin 256} (hred : PartText rs red)
      (hgreen : PartText gs green) (hblue : PartText bs blue) :
      Spells ("rgb(".toList ++ (rs ++ ',' :: (gs ++ ',' :: bs)) ++ [')']) (mixed red green blue)

variable {cs : List Char} {color : Color}

/-! ### Pieces -/

theorem level?_eq_some_iff {n : ℕ} {k : Fin 256} :
  level? n = some k ↔ k.val = n
  := by
  rw [level?, Option.dite_none_right_eq_some]
  constructor
  · rintro ⟨h, ⟨⟩⟩
    rfl
  · rintro rfl
    exact ⟨k.isLt, rfl⟩

/-- What stands between a beginning and an end. -/
theorem between?_eq_some_iff {beginning ending inside : List Char} :
  between? beginning ending cs = some inside ↔ cs = beginning ++ inside ++ ending
  := by
  rw [between?, Option.ite_none_right_eq_some, Bool.and_eq_true, List.isPrefixOf_iff_prefix,
    List.isSuffixOf_iff_suffix]
  constructor
  · rintro ⟨⟨⟨rest, rfl⟩, hending⟩, hinside⟩
    rw [List.drop_left] at hending hinside
    obtain ⟨inside', rfl⟩ := hending
    have hlength : (beginning ++ (inside' ++ ending)).length - beginning.length - ending.length
        = inside'.length := by
      simp only [List.length_append]
      omega
    rw [hlength, List.take_left, Option.some.injEq] at hinside
    rw [← hinside, List.append_assoc]
  · rintro rfl
    have hlength : (beginning ++ (inside ++ ending)).length - beginning.length - ending.length
        = inside.length := by
      simp only [List.length_append]
      omega
    rw [List.append_assoc, List.drop_left, hlength, List.take_left]
    exact ⟨⟨List.prefix_append _ _, List.suffix_append _ _⟩, rfl⟩

/-! ### Hexadecimal digits -/

theorem mapM_eq_some_iff {f : Char → Option ℕ} {ns : List ℕ} :
  cs.mapM f = some ns ↔ List.Forall₂ (fun c n => f c = some n) cs ns
  := by
  induction cs generalizing ns with
  | nil => simp [eq_comm]
  | cons c cs ih =>
    simp only [List.mapM_cons, Option.bind_eq_bind, Option.bind_eq_some_iff, Option.pure_def,
      Option.some.injEq, ih, List.forall₂_cons_left_iff]
    constructor
    · rintro ⟨n, hn, ns, hns, rfl⟩
      exact ⟨n, ns, hn, hns, rfl⟩
    · rintro ⟨n, ns, hn, hns, rfl⟩
      exact ⟨n, hn, ns, hns, rfl⟩

theorem ofHex?_eq_some_iff :
  ofHex? cs = some color ↔ ∃ rs gs bs, ∃ red green blue : Fin 256, HexText rs red
    ∧ HexText gs green ∧ HexText bs blue ∧ cs = rs ++ gs ++ bs ∧ color = mixed red green blue
  := by
  constructor
  · intro h
    obtain ⟨ns, hns, hcolor⟩ := Option.bind_eq_some_iff.mp h
    rw [mapM_eq_some_iff] at hns
    split at hcolor
    · rcases hns with _ | ⟨hr₁, _ | ⟨hr₀, _ | ⟨hg₁, _ | ⟨hg₀, _ | ⟨hb₁, _ | ⟨hb₀, ⟨⟩⟩⟩⟩⟩⟩⟩
      simp only [Option.bind_eq_bind, Option.bind_eq_some_iff, level?_eq_some_iff,
        Option.some.injEq] at hcolor
      obtain ⟨red, hred, green, hgreen, blue, hblue, rfl⟩ := hcolor
      refine ⟨[_, _], [_, _], [_, _], red, green, blue, ?_, ?_, ?_, rfl, rfl⟩
      · rw [hred]
        exact .digits hr₁ hr₀
      · rw [hgreen]
        exact .digits hg₁ hg₀
      · rw [hblue]
        exact .digits hb₁ hb₀
    · cases hcolor
  · rintro ⟨rs, gs, bs, red, green, blue, hred, hgreen, hblue, rfl, rfl⟩
    generalize hr : red.val = r at hred
    generalize hg : green.val = g at hgreen
    generalize hb : blue.val = b at hblue
    obtain ⟨hr₁, hr₀⟩ := hred
    obtain ⟨hg₁, hg₀⟩ := hgreen
    obtain ⟨hb₁, hb₀⟩ := hblue
    simp [ofHex?, hr₁, hr₀, hg₁, hg₀, hb₁, hb₀, level?_eq_some_iff.mpr hr,
      level?_eq_some_iff.mpr hg, level?_eq_some_iff.mpr hb]

/-! ### Numbers -/

theorem ofIndex?_eq_some_iff :
  ofIndex? cs = some color ↔ cs ≠ [] ∧ cs.length ≤ 3 ∧ cs.all Text.isAsciiDigit = true
    ∧ ∃ n : Fin 256, n.val = Text.decimalValue cs ∧ color = indexed n
  := by
  simp only [ofIndex?, Option.ite_none_right_eq_some, Option.map_eq_some_iff, level?_eq_some_iff,
    Bool.and_eq_true, Bool.not_eq_true', List.isEmpty_eq_false_iff, ne_eq, decide_eq_true_eq,
    and_assoc, eq_comm (a := color)]

/-! ### Mixtures -/

theorem unmarked_ten (cs : List Char) :
  Literal.unmarked 10 cs = cs
  := by
  unfold Literal.unmarked
  split <;> simp [Literal.marksOf]

/-- No sign is among the characters of a mixture. -/
theorem signAndRest_of_isMixtureChar (h : cs.all isMixtureChar = true) :
  Literal.signAndRest cs = (false, cs)
  := by
  have hminus : isMixtureChar '-' = false := by decide +kernel
  have hplus : isMixtureChar '+' = false := by decide +kernel
  unfold Literal.signAndRest
  split <;> simp_all

/-- The digits that a part of a mixture begins with, behind white space. -/
def partDigits (cs : List Char) : List Char := (cs.dropWhile Text.isSpace).takeWhile Text.isDigit

/-- What follows the digits in a part of a mixture. -/
def partRest (cs : List Char) : List Char := (cs.dropWhile Text.isSpace).dropWhile Text.isDigit

/-- A number is written in a part when there are digits behind white space, and nothing but white
space behind them. -/
theorem partText_iff {n : ℕ} :
  PartText cs n ↔ (partDigits cs).length ≤ Literal.digitLimit ∧ partDigits cs ≠ []
    ∧ (partRest cs).all Text.isSpace = true ∧ n = Text.decimalValue (partDigits cs)
  := by
  constructor
  · rintro ⟨hbefore, hne, hdigits, hlength, hafter⟩
    rename_i before ds after
    have hdigit : ∀ c ∈ (ds ++ after).head?, Text.isSpace c = false := by
      obtain ⟨d, ds', rfl⟩ := List.exists_cons_of_ne_nil hne
      rintro c ⟨⟩
      exact Text.isSpace_of_isDigit (List.all_eq_true.mp hdigits d List.mem_cons_self)
    have hspace : ∀ c ∈ after.head?, Text.isDigit c = false := by
      intro c hc
      by_contra hdigit
      have hspace := List.all_eq_true.mp hafter c (List.mem_of_mem_head? hc)
      rw [Text.isSpace_of_isDigit (Bool.eq_true_of_not_eq_false hdigit)] at hspace
      cases hspace
    have hdrop : (before ++ ds ++ after).dropWhile Text.isSpace = ds ++ after := by
      rw [List.append_assoc, Text.dropWhile_append_of_head hbefore hdigit]
    rw [partDigits, partRest, hdrop, Text.takeWhile_append_of_head hdigits hspace,
      Text.dropWhile_append_of_head hdigits hspace]
    exact ⟨hlength, hne, hafter, rfl⟩
  · rintro ⟨hlength, hne, hrest, rfl⟩
    have htext : cs.takeWhile Text.isSpace ++ partDigits cs ++ partRest cs = cs := by
      simp [partDigits, partRest]
    have hpart : PartText (cs.takeWhile Text.isSpace ++ partDigits cs ++ partRest cs)
        (Text.decimalValue (partDigits cs)) :=
      .digits List.all_takeWhile hne List.all_takeWhile hlength hrest
    rwa [htext] at hpart

/-- Where no sign is, a part is read as a number when it is written as one. -/
theorem numberOfPart_eq_ok_iff {i : ℤ} (h : cs.all isMixtureChar = true) :
  numberOfPart cs = .ok i ↔ ∃ n : ℕ, PartText cs n ∧ i = n
  := by
  have hunsigned : (cs.dropWhile Text.isSpace).all isMixtureChar = true :=
    List.all_eq_true.mpr (fun c hc => List.all_eq_true.mp h c ((List.dropWhile_sublist _).subset hc))
  have hinteger : Literal.integer 10 (.ofChars cs)
      = if Literal.digitLimit < (partDigits cs).length then .error (.overlong (partDigits cs).length)
        else if (partDigits cs).isEmpty || !(partRest cs).all Text.isSpace then
          .error (.notWhole 10 (.ofChars cs))
        else .ok (Text.decimalValue (partDigits cs)) := by
    simp only [Literal.integer, Text.Codes.chars_ofChars, signAndRest_of_isMixtureChar hunsigned,
      unmarked_ten, Literal.digitIn?_ten, decide_true, Bool.true_and, decide_eq_true_eq]
    rfl
  rw [numberOfPart, Outcome.mapError_eq_ok_iff, hinteger]
  simp only [partText_iff]
  split_ifs with hlong hwrong
  · simp [hlong]
  · simp only [Bool.or_eq_true, List.isEmpty_iff, Bool.not_eq_true'] at hwrong
    simp only [false_iff]
    rintro ⟨n, ⟨-, hne, hrest, -⟩, -⟩
    rcases hwrong with hempty | hfalse
    · exact hne hempty
    · cases hrest.symm.trans hfalse
  · simp only [Bool.or_eq_true, List.isEmpty_iff, Bool.not_eq_true', not_or,
      Bool.not_eq_false] at hwrong
    simp [hwrong.1, hwrong.2, Nat.not_lt.mp hlong, eq_comm]

/-- The characters of a part are among those of a mixture, and none of them is a comma. -/
theorem PartText.isMixtureChar {n : ℕ} (h : PartText cs n) :
  cs.all isMixtureChar = true ∧ ',' ∉ cs
  := by
  have hchar : ∀ c ∈ cs, Text.isSpace c = true ∨ Text.isDigit c = true := by
    obtain ⟨hbefore, -, hdigits, -, hafter⟩ := h
    intro c hc
    rw [List.mem_append, List.mem_append] at hc
    rcases hc with (hc | hc) | hc
    · exact .inl (List.all_eq_true.mp hbefore c hc)
    · exact .inr (List.all_eq_true.mp hdigits c hc)
    · exact .inl (List.all_eq_true.mp hafter c hc)
  constructor
  · rw [List.all_eq_true]
    intro c hc
    rcases hchar c hc with hspace | hdigit
    · simp [Color.isMixtureChar, Text.isBlank_of_isSpace hspace]
    · simp [Color.isMixtureChar, hdigit]
  · intro hcomma
    rcases hchar _ hcomma with hspace | hdigit
    · exact absurd hspace (by decide)
    · exact absurd hdigit (by decide)

theorem levelOfInt?_natCast_eq_some_iff {n : ℕ} {k : Fin 256} :
  levelOfInt? n = some k ↔ k.val = n
  := by
  rw [levelOfInt?, if_neg (Int.not_lt.mpr (Int.natCast_nonneg n)), Int.toNat_natCast,
    level?_eq_some_iff]

theorem ofNumbers?_natCast_eq_some_iff {r g b : ℕ} :
  ofNumbers? r g b = some color ↔ ∃ red green blue : Fin 256, red.val = r ∧ green.val = g
    ∧ blue.val = b ∧ color = mixed red green blue
  := by
  simp only [ofNumbers?, Option.bind_eq_bind, Option.bind_eq_some_iff,
    levelOfInt?_natCast_eq_some_iff, Option.some.injEq, eq_comm (b := color)]
  constructor
  · rintro ⟨red, hred, green, hgreen, blue, hblue, hcolor⟩
    exact ⟨red, green, blue, hred, hgreen, hblue, hcolor⟩
  · rintro ⟨red, green, blue, hred, hgreen, hblue, hcolor⟩
    exact ⟨red, hred, green, hgreen, blue, hblue, hcolor⟩

/-- Three parts of a text lie between two separators. -/
theorem split_eq_three_iff {rs gs bs : List Char} :
  Text.split ',' cs = [rs, gs, bs] ↔ ',' ∉ rs ∧ ',' ∉ gs ∧ ',' ∉ bs
    ∧ cs = rs ++ ',' :: (gs ++ ',' :: bs)
  := by
  simp only [Text.split_eq_cons_cons_iff, Text.split_eq_singleton_iff]
  constructor
  · rintro ⟨_, hred, rfl, _, hgreen, rfl, hblue, rfl⟩
    exact ⟨hred, hgreen, hblue, rfl⟩
  · rintro ⟨hred, hgreen, hblue, rfl⟩
    exact ⟨_, hred, rfl, _, hgreen, rfl, hblue, rfl⟩

theorem ofMixture_eq_ok_iff {source : String} (h : cs.all isMixtureChar = true) :
  ofMixture source cs = .ok color ↔ ∃ rs gs bs, ∃ red green blue : Fin 256, PartText rs red
    ∧ PartText gs green ∧ PartText bs blue ∧ cs = rs ++ ',' :: (gs ++ ',' :: bs)
    ∧ color = mixed red green blue
  := by
  constructor
  · intro hcolor
    unfold ofMixture at hcolor
    split at hcolor
    · rename_i rs gs bs hsplit
      obtain ⟨-, -, -, rfl⟩ := split_eq_three_iff.mp hsplit
      simp only [List.all_append, List.all_cons, Bool.and_eq_true] at h
      obtain ⟨hrs, -, hgs, -, hbs⟩ := h
      simp only [Outcome.bind_eq_ok_iff, numberOfPart_eq_ok_iff hrs, numberOfPart_eq_ok_iff hgs,
        numberOfPart_eq_ok_iff hbs] at hcolor
      obtain ⟨_, ⟨r, hr, rfl⟩, _, ⟨g, hg, rfl⟩, _, ⟨b, hb, rfl⟩, hcolor⟩ := hcolor
      split at hcolor
      · rename_i hnumbers
        cases hcolor
        obtain ⟨red, green, blue, rfl, rfl, rfl, rfl⟩ := ofNumbers?_natCast_eq_some_iff.mp hnumbers
        exact ⟨rs, gs, bs, red, green, blue, hr, hg, hb, rfl, rfl⟩
      · cases hcolor
    · cases hcolor
  · rintro ⟨rs, gs, bs, red, green, blue, hr, hg, hb, rfl, rfl⟩
    have hsplit : Text.split ',' (rs ++ ',' :: (gs ++ ',' :: bs)) = [rs, gs, bs] :=
      split_eq_three_iff.mpr ⟨hr.isMixtureChar.2, hg.isMixtureChar.2, hb.isMixtureChar.2, rfl⟩
    have hnumber {ds : List Char} {n : ℕ} (hn : PartText ds n) : numberOfPart ds = .ok n :=
      (numberOfPart_eq_ok_iff hn.isMixtureChar.1).mpr ⟨n, hn, rfl⟩
    have hnumbers : ofNumbers? red.val green.val blue.val = some (mixed red green blue) :=
      ofNumbers?_natCast_eq_some_iff.mpr ⟨red, green, blue, rfl, rfl, rfl, rfl⟩
    simp [ofMixture, hsplit, hnumber hr, hnumber hg, hnumber hb, hnumbers, Bind.bind, Except.bind]

/-! ### Texts -/

theorem ofName?_eq_some_iff :
  ofName? cs = some color ↔ ∃ n : Fin 256, colorNames.lookup (String.ofList cs) = some n.val
    ∧ color = indexed n
  := by
  simp only [ofName?, Option.map_eq_some_iff, Option.bind_eq_some_iff, level?_eq_some_iff,
    eq_comm (b := color)]
  constructor
  · rintro ⟨n, ⟨_, hlookup, rfl⟩, hcolor⟩
    exact ⟨n, hlookup, hcolor⟩
  · rintro ⟨n, hlookup, hcolor⟩
    exact ⟨n, ⟨_, hlookup, rfl⟩, hcolor⟩

/-- No name has a character by which the texts of other kinds begin or end. -/
theorem ofName?_eq_none {c : Char} (hmark : c = '#' ∨ c = '(') (h : c ∈ cs) :
  ofName? cs = none
  := by
  have hnames : colorNames.all (fun p => p.1.toList.all (fun c => c != '#' && c != '(')) = true := by
    decide +kernel
  rw [Option.eq_none_iff_forall_ne_some]
  intro color hcolor
  obtain ⟨n, hlookup, -⟩ := ofName?_eq_some_iff.mp hcolor
  obtain ⟨before, after, hsplit, -⟩ := List.lookup_eq_some_iff.mp hlookup
  have hname := List.all_eq_true.mp hnames (String.ofList cs, n.val) (by simp [hsplit])
  rw [String.toList_ofList] at hname
  have hc := List.all_eq_true.mp hname c h
  rcases hmark with rfl | rfl <;> simp at hc

theorem ofList_ne_default {c : Char} (hmark : c = '#' ∨ c = '(') (h : c ∈ cs) :
  String.ofList cs ≠ "default"
  := by
  intro heq
  have hcs : cs = "default".toList := by rw [← heq, String.toList_ofList]
  rw [hcs] at h
  rcases hmark with rfl | rfl
  · revert h
    decide
  · revert h
    decide

theorem getD_map_ok_eq_ok_iff {x : Option Color} {fault : ColorFault} :
  (x.map Except.ok).getD (.error fault) = .ok color ↔ x = some color
  := by
  cases x <;> simp

/-- What is read as a color is written as one. -/
theorem spells_of_ofText {s : String} (h : ofText s = .ok color) :
  Spells (normal s.toList) color
  := by
  unfold ofText at h
  generalize normal s.toList = cs at h ⊢
  dsimp only at h
  split at h
  · rename_i hdefault
    cases h
    rw [← String.toList_ofList (l := cs), hdefault]
    exact .default
  split at h
  · rename_i hname
    cases h
    obtain ⟨n, hlookup, rfl⟩ := ofName?_eq_some_iff.mp hname
    exact .name hlookup
  split at h
  · rename_i digits hbetween
    obtain rfl := between?_eq_some_iff.mp hbetween
    obtain ⟨rs, gs, bs, red, green, blue, hr, hg, hb, rfl, rfl⟩ :=
      ofHex?_eq_some_iff.mp (getD_map_ok_eq_ok_iff.mp h)
    rw [List.append_nil]
    exact .hexadecimal hr hg hb
  · rename_i digits hbetween _
    obtain rfl := between?_eq_some_iff.mp hbetween
    obtain ⟨hne, hlength, hdigits, n, hn, rfl⟩ :=
      ofIndex?_eq_some_iff.mp (getD_map_ok_eq_ok_iff.mp h)
    exact .number hne hlength hdigits hn
  · rename_i inside hbetween _ _
    obtain rfl := between?_eq_some_iff.mp hbetween
    split at h
    · rename_i hinside
      rw [Bool.and_eq_true] at hinside
      obtain ⟨rs, gs, bs, red, green, blue, hr, hg, hb, rfl, rfl⟩ :=
        (ofMixture_eq_ok_iff hinside.2).mp h
      exact .mixture hr hg hb
    · cases h
  · cases h

/-- A text is read as a color when it is written as one between any blanks, in any case. -/
theorem ofText_eq_ok_iff {s : String} :
  ofText s = .ok color ↔ Spells (normal s.toList) color
  := by
  constructor
  · exact spells_of_ofText
  intro h
  unfold ofText
  generalize normal s.toList = cs at h ⊢
  dsimp only
  cases h with
  | default => rw [if_pos String.ofList_toList]
  | name hname =>
    have hnone : colorNames.lookup "default" = none := by decide +kernel
    have hdefault : String.ofList cs ≠ "default" := by
      intro heq
      cases hnone.symm.trans (heq ▸ hname)
    rw [if_neg hdefault, ofName?_eq_some_iff.mpr ⟨_, hname, rfl⟩]
  | hexadecimal hr hg hb =>
    rename_i rs gs bs red green blue
    have hmem : '#' ∈ "#".toList ++ (rs ++ gs ++ bs) := by simp
    have hhex : between? "#".toList [] ("#".toList ++ (rs ++ gs ++ bs)) = some (rs ++ gs ++ bs) :=
      between?_eq_some_iff.mpr (List.append_nil _).symm
    rw [if_neg (ofList_ne_default (.inl rfl) hmem), ofName?_eq_none (.inl rfl) hmem, hhex]
    exact getD_map_ok_eq_ok_iff.mpr
      (ofHex?_eq_some_iff.mpr ⟨rs, gs, bs, red, green, blue, hr, hg, hb, rfl, rfl⟩)
  | number hne hlength hdigits hn =>
    rename_i ds n
    have hmem : '(' ∈ "color(".toList ++ ds ++ [')'] := by simp
    have hhex : between? "#".toList [] ("color(".toList ++ ds ++ [')']) = none := rfl
    have hnumber : between? "color(".toList [')'] ("color(".toList ++ ds ++ [')']) = some ds :=
      between?_eq_some_iff.mpr rfl
    rw [if_neg (ofList_ne_default (.inr rfl) hmem), ofName?_eq_none (.inr rfl) hmem, hhex, hnumber]
    exact getD_map_ok_eq_ok_iff.mpr (ofIndex?_eq_some_iff.mpr ⟨hne, hlength, hdigits, n, hn, rfl⟩)
  | mixture hr hg hb =>
    rename_i rs gs bs red green blue
    generalize hinside : rs ++ ',' :: (gs ++ ',' :: bs) = inside
    have hmem : '(' ∈ "rgb(".toList ++ inside ++ [')'] := by simp
    have hhex : between? "#".toList [] ("rgb(".toList ++ inside ++ [')']) = none := rfl
    have hnumber : between? "color(".toList [')'] ("rgb(".toList ++ inside ++ [')']) = none := rfl
    have hmixture : between? "rgb(".toList [')'] ("rgb(".toList ++ inside ++ [')']) = some inside :=
      between?_eq_some_iff.mpr rfl
    have hcomma : isMixtureChar ',' = true := by decide
    have hall : inside.all isMixtureChar = true := by
      simp [← hinside, hr.isMixtureChar.1, hg.isMixtureChar.1, hb.isMixtureChar.1, hcomma]
    have hne : inside.isEmpty = false := by simp [← hinside]
    rw [if_neg (ofList_ne_default (.inr rfl) hmem), ofName?_eq_none (.inr rfl) hmem, hhex, hnumber,
      hmixture]
    simp only [hne, hall, Bool.not_false, Bool.and_self, if_true]
    exact (ofMixture_eq_ok_iff hall).mpr ⟨rs, gs, bs, red, green, blue, hr, hg, hb, hinside.symm, rfl⟩

end Color

end PodTable
