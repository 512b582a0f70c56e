import Mathlib.Tactic.Common
import PodTable.Yaml.Reading

/-!
# Brackets within brackets

A text of opening brackets alone is not well-formed, however many there are. It is found to be
malformed if there is room for as many collections, and is too deep if there is not:
`Yaml.read_brackets`. So no room is enough for all texts.
-/

namespace PodTable

namespace Yaml

/-- The text of `n` opening brackets. -/
def brackets (n : ℕ) : String := String.ofList (List.replicate n '[')

/-! ### Tokens -/

theorem place_replicate_succ (k n : ℕ) :
  place 0 k k (List.replicate (n + 1) '[')
    = ⟨'[', 0, k, k⟩ :: place 0 (k + 1) (k + 1) (List.replicate n '[')
  := rfl

theorem length_place_replicate (k n : ℕ) :
  (place 0 k k (List.replicate n '[')).length = n + 1
  := by
  induction n generalizing k with
  | zero => rfl
  | succ n ih => rw [place_replicate_succ, List.length_cons, ih]

namespace Lexer

/-- None of the starts of keys is required. -/
def AreOptional (ks : List (Option KeyStart)) : Prop := ∀ k, some k ∈ ks → k.required = false

/-- The lexer after `k` brackets and before `n` others. -/
def atBracket (k n : ℕ) (ks : List (Option KeyStart)) : Lexer where
  rest := place 0 k k (List.replicate n '[')
  tokens := List.replicate k .flowSequenceStart
  outerKeyStarts := ks

variable {k n : ℕ} {ks : List (Option KeyStart)}

theorem AreOptional.cons {o : Option KeyStart} (ho : ∀ k, o = some k → k.required = false)
    (h : AreOptional ks) :
  AreOptional (o :: ks)
  := by
  intro k hk
  rcases List.mem_cons.mp hk with hk | hk
  · exact ho k hk.symm
  · exact h k hk

/-- There is nothing to skip before a bracket or the end. -/
theorem toNext_atBracket :
  (atBracket k n ks).toNext = atBracket k n ks
  := by
  have hstay (g : Glyph) (gs : List Glyph) (hg : g.char = '[' ∨ g.char = endChar) :
      skipBlanks (g :: gs).length (g :: gs) = (false, g :: gs)
        ∧ (peek (g :: gs) 0 == byteOrderMark) = false := by
    rcases hg with hg | hg <;>
      simp [skipBlanks, skip, peek, hg, byteOrderMark, endChar, isBreak]
  obtain ⟨g, gs, hrest, hg⟩ : ∃ g gs, (atBracket k n ks).rest = g :: gs
      ∧ (g.char = '[' ∨ g.char = endChar) := by
    cases n with
    | zero => exact ⟨_, _, rfl, .inr rfl⟩
    | succ n => exact ⟨_, _, place_replicate_succ k n, .inl rfl⟩
  obtain ⟨hskip, hmark⟩ := hstay g gs hg
  simp only [toNext, hrest, hmark, Bool.and_false, Bool.false_eq_true, if_false, hskip]
  rw [← hrest]
  rfl

theorem unwind_atBracket (column : Int) :
  (atBracket k n ks).unwind column = atBracket k n ks
  := by
  simp [unwind, atBracket, closeBlocks]

theorem exists_fresh (l : Lexer) {o : Option KeyStart} (h : ∀ k, o = some k → k.required = false) :
  ∃ o', l.fresh o = .ok o' ∧ ∀ k, o' = some k → k.required = false
  := by
  cases o with
  | none => exact ⟨none, rfl, h⟩
  | some k =>
    by_cases hstale : l.isStale k
    · exact ⟨none, by simp [fresh, hstale, h k rfl], nofun⟩
    · exact ⟨some k, by simp [fresh, hstale], h⟩

/-- Starts of keys that are not required may become stale. -/
theorem exists_mapM_fresh (l : Lexer) (h : AreOptional ks) :
  ∃ ks', ks.mapM l.fresh = .ok ks' ∧ AreOptional ks'
  := by
  induction ks with
  | nil => exact ⟨[], rfl, h⟩
  | cons o ks ih =>
    obtain ⟨o', ho', hfresh⟩ := exists_fresh l (fun k hk => h k (hk ▸ List.mem_cons_self))
    obtain ⟨ks', hks', hoptional⟩ := ih (fun k hk => h k (List.mem_cons_of_mem o hk))
    refine ⟨o' :: ks', ?_, hoptional.cons hfresh⟩
    rw [List.mapM_cons, ho', hks']
    rfl

theorem exists_dropStale_atBracket (k n : ℕ) (h : AreOptional ks) :
  ∃ ks', (atBracket k n ks).dropStale = .ok (atBracket k n ks') ∧ AreOptional ks'
  := by
  obtain ⟨ks', hks', hoptional⟩ := exists_mapM_fresh (atBracket k n ks) h
  have houter : (atBracket k n ks).outerKeyStarts = ks := rfl
  use ks', ?_, hoptional
  rw [dropStale, houter, hks']
  rfl

/-- A key may start at a bracket. It is not required, since no block is open. -/
theorem exists_saveKeyStart_atBracket (k n : ℕ) (ks : List (Option KeyStart)) :
  ∃ key : KeyStart, key.required = false
    ∧ (atBracket k n ks).saveKeyStart = .ok { atBracket k n ks with keyStart := some key }
  := by
  refine ⟨_, ?_, rfl⟩
  simp [atBracket, Lexer.column]

/-- One more bracket is read. -/
theorem exists_step_atBracket (h : AreOptional ks) :
  ∃ ks', (atBracket k (n + 1) ks).step = .ok (atBracket (k + 1) n ks') ∧ AreOptional ks'
  := by
  obtain ⟨ks', hdrop, hoptional⟩ := exists_dropStale_atBracket k (n + 1) h
  obtain ⟨key, hkey, hsave⟩ := exists_saveKeyStart_atBracket k (n + 1) ks'
  have hpeek : peek (atBracket k (n + 1) ks').rest 0 = '[' := rfl
  have hend : ('[' == endChar) = false := by decide
  have hdirective : ('[' == '%') = false := by decide
  have hmarker : isDocumentMarker (atBracket k (n + 1) ks').rest = false := by
    simp [isDocumentMarker, hpeek]
  refine ⟨some key :: ks', ?_, hoptional.cons (fun _ hk => Option.some.inj hk ▸ hkey)⟩
  rw [step, toNext_atBracket, hdrop]
  simp only [bind, Except.bind, unwind_atBracket, hpeek, hend, hdirective, hmarker, Bool.and_false,
    Bool.false_eq_true, if_false, token, BEq.rfl, if_true, openFlow, hsave]
  rfl

theorem exists_step_atEnd (h : AreOptional ks) :
  ∃ l, (atBracket k 0 ks).step = .ok l ∧ l.rest = []
    ∧ l.tokens = .streamEnd :: List.replicate k .flowSequenceStart
  := by
  obtain ⟨ks', hdrop, -⟩ := exists_dropStale_atBracket k 0 h
  have hpeek : peek (atBracket k 0 ks').rest 0 = endChar := rfl
  refine ⟨(atBracket k 0 ks').push .streamEnd [], ?_, rfl, rfl⟩
  rw [step, toNext_atBracket, hdrop]
  simp only [bind, Except.bind, unwind_atBracket, hpeek, BEq.rfl, if_true, finish]
  rfl

/-- The brackets that are left are read one after the other, and then the end. -/
theorem run_atBracket (h : AreOptional ks) {fuel : ℕ} (hfuel : n + 2 ≤ fuel) :
  run fuel (atBracket k n ks) = List.replicate (k + n) .flowSequenceStart ++ [.streamEnd]
  := by
  induction n generalizing k ks fuel with
  | zero =>
    obtain ⟨l, hstep, hrest, htokens⟩ := exists_step_atEnd (k := k) h
    obtain ⟨fuel, rfl⟩ : ∃ m, fuel = m + 2 := ⟨fuel - 2, by omega⟩
    have hmore : (atBracket k 0 ks).rest.isEmpty = false := rfl
    rw [run, hmore, hstep]
    simp [run, hrest, htokens]
  | succ n ih =>
    obtain ⟨ks', hstep, hoptional⟩ := exists_step_atBracket (k := k) (n := n) h
    obtain ⟨fuel, rfl⟩ : ∃ m, fuel = m + 1 := ⟨fuel - 1, by omega⟩
    have hmore : (atBracket k (n + 1) ks).rest.isEmpty = false := rfl
    rw [run, hmore, hstep]
    simp only [Bool.false_eq_true, if_false]
    rw [ih hoptional (by omega), Nat.add_right_comm, Nat.add_assoc]

end Lexer

theorem tokens_brackets (n : ℕ) :
  tokens (brackets n) = List.replicate n .flowSequenceStart ++ [.streamEnd]
  := by
  have hallowed : isAllowed '[' = true := by decide
  have hall : (brackets n).toList.all isAllowed = true := by
    simp [brackets, hallowed]
  have hnone : Lexer.AreOptional [] := nofun
  have hrun := Lexer.run_atBracket (k := 0) (n := n) hnone (Nat.le_refl _)
  rw [tokens, if_pos hall, brackets, String.toList_ofList]
  simpa [Lexer.atBracket, length_place_replicate] using hrun

/-! ### Nodes -/

namespace NodeReader

variable {handles : List (String × String)} {n fuel : ℕ}

/-- What is wrong with a bracket inside brackets is wrong with the items of these. -/
theorem flowItems_brackets {s : NodeReader} {defect : Defect}
    (hs : s.tokens = List.replicate n .flowSequenceStart ++ [.streamEnd])
    (h : node handles false false fuel s = .error defect) :
  flowItems handles true (fuel + 1) s = .error defect
  := by
  have hsame : node handles false false fuel (s.goOn s.tokens) = .error defect := h
  rw [flowItems, hs]
  rw [hs] at hsame
  -- The first of the items begins with a bracket, or there is none before the end.
  cases n with
  | zero =>
    rw [List.replicate_zero, List.nil_append] at hsame ⊢
    simp [afterComma, bind, Except.bind, hsame]
  | succ n =>
    rw [List.replicate_succ, List.cons_append] at hsame ⊢
    simp [afterComma, bind, Except.bind, hsame]

/-- Every bracket takes up room, and a bracket for which none is left is too deep. -/
theorem node_brackets {block indentless : Bool} (hfuel : 2 * n < fuel) {s : NodeReader}
    (hs : s.tokens = List.replicate n .flowSequenceStart ++ [.streamEnd]) :
  node handles block indentless fuel s = .error (if s.room < n then .tooDeep else .malformed)
  := by
  induction n generalizing block indentless fuel s with
  | zero =>
    obtain ⟨fuel, rfl⟩ : ∃ m, fuel = m + 1 := ⟨fuel - 1, by omega⟩
    rw [node, hs]
    rfl
  | succ n ih =>
    obtain ⟨fuel, rfl⟩ : ∃ m, fuel = m + 2 := ⟨fuel - 2, by omega⟩
    have hitems (s : NodeReader)
        (hs : s.tokens = List.replicate n .flowSequenceStart ++ [.streamEnd]) :
        flowItems handles true (fuel + 1) s
          = .error (if s.room < n then .tooDeep else .malformed) :=
      flowItems_brackets hs (ih (by omega) hs)
    rw [node, hs, List.replicate_succ, List.cons_append]
    simp only [properties, bind, Except.bind, sequence, addAnchored, add, goOn, inside]
    cases hroom : s.room with
    | zero => simp
    | succ room => simp [hitems, Except.map]

end NodeReader

/-- A text of brackets is malformed, or too deep for the room that there is. -/
theorem read_brackets (room : Room) (depth : ℕ) {n : ℕ} (h : n ≠ 0) :
  read room depth (brackets n)
    = .error (if room.collections < n then .tooDeep else .malformed)
  := by
  obtain ⟨n, rfl⟩ := Nat.exists_eq_succ_of_ne_zero h
  have hbegin : firstDocument room (tokens (brackets (n + 1)))
      = documentNode room standardHandles (tokens (brackets (n + 1))) := by
    rw [tokens_brackets]
    rfl
  have hlength : 2 * (n + 1) < 4 * (tokens (brackets (n + 1))).length + 4 := by
    rw [tokens_brackets, List.length_append, List.length_replicate]
    omega
  rw [read, node, hbegin, documentNode, NodeReader.node_brackets hlength (tokens_brackets _)]
  rfl

end Yaml

end PodTable
