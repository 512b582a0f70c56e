import PodTable.Proofs.Pod.Totals

/-!
# Runs of an accumulator

An accumulator may be given amounts after it has stopped, and ignores them. After any run of
additions it has stopped if an amount was missing, and holds what `allOrNothing` makes of all the
amounts given so far. Hence a run that ends at the first missing amount and a run to the end leave
the same accumulator.
-/

namespace PodTable

theorem allOrNothing_of_none_mem {xs : List (Option Amount)} (h : none ∈ xs) :
  allOrNothing xs = {}
  := if_pos h

theorem allOrNothing_append_some {xs : List (Option Amount)} (h : none ∉ xs) (a : Amount) :
  allOrNothing (xs ++ [some a]) = allOrNothing xs + a
  := by
  apply Amount.ext <;> simp [allOrNothing, h]

namespace Accumulator

/-- The accumulator after the addition of all amounts, whatever the answers are. -/
def addAll (a : Accumulator) (xs : List (Option Amount)) : Accumulator :=
  xs.foldl (fun b x => (b.add x).2) a

variable {a : Accumulator} {xs : List (Option Amount)}

@[simp]
theorem addAll_nil (a : Accumulator) :
  a.addAll [] = a
  := rfl

theorem addAll_cons (a : Accumulator) (x : Option Amount) (xs : List (Option Amount)) :
  a.addAll (x :: xs) = (a.add x).2.addAll xs
  := rfl

theorem add_of_stopped (h : a.stopped = true) (x : Option Amount) :
  a.add x = (false, a)
  := if_pos h

/-- Every addition answers whether the sum is still open after it. -/
theorem add_answer_iff (a : Accumulator) (x : Option Amount) :
  (a.add x).1 = true ↔ (a.add x).2.stopped = false
  := by
  cases h : a.stopped with
  | true => simp [add_of_stopped h, h]
  | false => cases x <;> simp [add, h]

/-- Nothing that is given to a stopped accumulator changes it. -/
theorem addAll_of_stopped (h : a.stopped = true) (xs : List (Option Amount)) :
  a.addAll xs = a
  := by
  induction xs with
  | nil => rfl
  | cons x xs ih => rw [addAll_cons, add_of_stopped h, ih]

/-- Going on after the first answer that is no makes no difference. -/
theorem addUntilStopped_eq_addAll (a : Accumulator) (xs : List (Option Amount)) :
  a.addUntilStopped xs = a.addAll xs
  := by
  induction xs generalizing a with
  | nil => rfl
  | cons x xs ih =>
    have hanswer := a.add_answer_iff x
    rw [addUntilStopped, addAll_cons]
    split
    · rename_i b hadd
      rw [ih, hadd]
    · rename_i b hadd
      rw [hadd] at hanswer ⊢
      have hstopped : b.stopped = true := by simpa using hanswer
      symm
      apply addAll_of_stopped hstopped

/-- The accumulator is what the amounts `xs` make of a fresh one. -/
structure IsAfter (xs : List (Option Amount)) (a : Accumulator) : Prop where
  stopped : a.stopped = true ↔ none ∈ xs
  total : a.total = allOrNothing xs

namespace IsAfter

theorem fresh :
  IsAfter [] {}
  := by
  constructor
  · simp
  · rfl

/-- One more addition keeps the accumulator in step with the amounts given. -/
theorem add (h : IsAfter xs a) (x : Option Amount) :
  IsAfter (xs ++ [x]) (a.add x).2
  := by
  cases hstopped : a.stopped with
  | true =>
    have hnone := h.stopped.mp hstopped
    have hnone' : none ∈ xs ++ [x] := List.mem_append_left [x] hnone
    rw [add_of_stopped hstopped]
    constructor
    · simp [hstopped, hnone']
    · rw [h.total, allOrNothing_of_none_mem hnone, allOrNothing_of_none_mem hnone']
  | false =>
    have hsome : none ∉ xs := by
      rw [← h.stopped, hstopped]
      decide
    cases x with
    | none =>
      have hnone : none ∈ xs ++ [none] := by simp
      constructor
      · simp [Accumulator.add, hstopped]
      · rw [allOrNothing_of_none_mem hnone]
        simp [Accumulator.add, hstopped]
    | some b =>
      constructor
      · simp [Accumulator.add, hstopped, hsome]
      · rw [allOrNothing_append_some hsome, ← h.total]
        simp [Accumulator.add, hstopped]

/-- A run of additions does so as well. -/
theorem addAll (h : IsAfter xs a) (ys : List (Option Amount)) :
  IsAfter (xs ++ ys) (a.addAll ys)
  := by
  induction ys generalizing xs a with
  | nil => simpa using h
  | cons y ys ih =>
    rw [addAll_cons, List.append_cons]
    apply ih
    apply h.add

/-- There is one way to be stopped after a missing amount. -/
theorem eq_closed (h : IsAfter xs a) (hnone : none ∈ xs) :
  a = ⟨{}, true⟩
  := by
  have htotal := h.total.trans (allOrNothing_of_none_mem hnone)
  have hstopped := h.stopped.mpr hnone
  cases a
  cases htotal
  cases hstopped
  rfl

end IsAfter

/-- After each addition of a run from a fresh accumulator, it has stopped exactly if an amount given
so far was missing, its total is zero in that case and the sum of the amounts otherwise, and the
addition has answered whether it is still open. Whatever is added before and after a missing amount,
the sum is closed at zero. The total of a group of containers, which ends at the first answer that is
no, is that of a run over all of them. -/
theorem tracks_amounts :
  (∀ xs x, let (answer, after) := ({} : Accumulator).addAll xs |>.add x
    (after.stopped = true ↔ none ∈ xs ++ [x])
    ∧ after.total = allOrNothing (xs ++ [x])
    ∧ (answer = true ↔ after.stopped = false))
  ∧ (∀ xs ys, ({} : Accumulator).addAll (xs ++ none :: ys) = ⟨{}, true⟩)
  ∧ ∀ amount? cs,
    Container.groupTotal amount? cs = (({} : Accumulator).addAll (cs.map amount?)).total
  := by
  refine ⟨?_, ?_, ?_⟩
  · intro xs x
    have hafter := (IsAfter.fresh.addAll xs).add x
    exact ⟨hafter.stopped, hafter.total, add_answer_iff _ x⟩
  · intro xs ys
    apply IsAfter.eq_closed (IsAfter.fresh.addAll (xs ++ none :: ys))
    simp
  · intro amount? cs
    rw [Container.groupTotal, addUntilStopped_eq_addAll]

end Accumulator

end PodTable
