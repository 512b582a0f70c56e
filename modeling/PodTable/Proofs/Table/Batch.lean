import Mathlib.Data.List.Forall2
import PodTable.Proofs.Pod.Failure
import PodTable.Proofs.Time.Difference
import PodTable.Table.Batch

/-!
# The results of a batch

An item either has a row of twenty fields or an error of one of its documents: no refused amount,
no faults of a record and no unknown duration is left over. So a batch always has results, one for
each item, and the result of an item depends on nothing but the item and the time.

The message of an error is made of the text of the identity of a pod, which may be any document.
This is so for documents of any depth: the calls within calls that make this text are taken to have
room without limit, as `Owner.text` is.
-/

namespace PodTable

open Failure

theorem View.length_row (v : View) :
  v.row.fields.length = 20
  := by
  simp [View.row, columns]

variable [EpochRule]

namespace Item

variable (now : Timestamp) (i : Item)

theorem failsOnly_view :
  FailsOnly IsError (i.view now)
  := by
  cases i with
  | report pod usage =>
    apply FailsOnly.bind (Source.failsOnly_pod pod)
    intro p
    apply FailsOnly.bind (Source.failsOnly_usage usage)
    intro u
    obtain ⟨age, h⟩ := Age.exists_cell p.created now
    rw [h]
    apply FailsOnly.ok
  | other value => apply Source.failsOnly_fail

theorem failsOnly_render :
  FailsOnly IsError (i.render now)
  := by
  apply FailsOnly.map
  apply failsOnly_view

end Item

/-- The result tells what came of an item: its row of twenty fields, or its error. -/
inductive RowResult.Tells (now : Timestamp) (i : Item) : RowResult → Prop
  | row {r : Row} (h : i.render now = .ok r) (hr : r.fields.length = 20) :
    Tells now i { success := true, row := some r, error := none }
  | error {e : SourceError} (h : i.render now = .error (.unreadable e)) :
    Tells now i { success := false, row := none, error := some e }

/-- The item has an error. -/
def Item.HasError (now : Timestamp) (i : Item) : Prop :=
  ∃ e, i.render now = .error (.unreadable e)

namespace Batch

variable (now : Timestamp)

theorem tells_unique {i : Item} {r r' : RowResult} (h : r.Tells now i) (h' : r'.Tells now i) :
  r = r'
  := by
  cases h with
  | row h _ =>
    cases h' with
    | row h' _ =>
      obtain rfl := Except.ok.inj (h.symm.trans h')
      rfl
    | error h' => cases h.symm.trans h'
  | error h =>
    cases h' with
    | row h' _ => cases h.symm.trans h'
    | error h' =>
      obtain rfl := Failure.unreadable.inj (Except.error.inj (h.symm.trans h'))
      rfl

/-- One more item adds its result, and a warning at its position if it has an error. -/
theorem exists_step (b : Batch) (i : Item) (n : Nat) :
  ∃ r ws, b.step now i n = .ok ⟨b.results ++ [r], b.warnings ++ ws⟩ ∧ r.Tells now i
    ∧ ((i.HasError now ∧ ws = [n]) ∨ (¬ i.HasError now ∧ ws = []))
  := by
  cases h : i.render now with
  | ok row =>
    have hrow : row.fields.length = 20 := by
      obtain ⟨v, _, rfl⟩ : ∃ v, i.view now = .ok v ∧ v.row = row := by
        cases hv : i.view now with
        | ok v => exact ⟨v, rfl, by simpa [Item.render, hv, Except.map] using h⟩
        | error f => simp [Item.render, hv, Except.map] at h
      apply View.length_row
    use .shown row, []
    refine ⟨by simp [step, h], .row h hrow, .inr ⟨?_, rfl⟩⟩
    rintro ⟨e, he⟩
    cases h.symm.trans he
  | error f =>
    obtain ⟨e, rfl⟩ := Item.failsOnly_render now i f h
    use .unread e, [n]
    exact ⟨by simp [step, h], .error h, .inl ⟨⟨e, h⟩, rfl⟩⟩

/-- Items from position `n` on add their results, and warnings at the positions of those that have
an error. -/
theorem exists_run (b : Batch) (items : List Item) (n : Nat) :
  ∃ rs ws, (items.zipIdx n).foldlM (fun b i => b.step now i.1 i.2) b
      = .ok ⟨b.results ++ rs, b.warnings ++ ws⟩
    ∧ List.Forall₂ (fun i r => RowResult.Tells now i r) items rs
    ∧ (∀ k, k ∈ ws ↔ ∃ j i, k = n + j ∧ items[j]? = some i ∧ i.HasError now)
    ∧ ws.Pairwise (· < ·)
  := by
  induction items generalizing b n with
  | nil => exact ⟨[], [], by simp [pure, Except.pure], .nil, by simp, .nil⟩
  | cons i items ih =>
    obtain ⟨r, ws, hstep, hr, hws⟩ := exists_step now b i n
    obtain ⟨rs, ws', hrun, hrs, hmem, hlt⟩ := ih ⟨b.results ++ [r], b.warnings ++ ws⟩ (n + 1)
    use r :: rs, ws ++ ws'
    refine ⟨?_, .cons hr hrs, ?_, ?_⟩
    · rw [List.zipIdx_cons, List.foldlM_cons]
      simp only [hstep]
      simpa [Bind.bind, Except.bind, List.append_assoc] using hrun
    · intro k
      rw [List.mem_append, hmem]
      constructor
      · rintro (hk | ⟨j, i', rfl, hj, he⟩)
        · rcases hws with ⟨he, rfl⟩ | ⟨_, rfl⟩
          · use 0, i
            exact ⟨by simpa using hk, rfl, he⟩
          · cases hk
        · use j + 1, i'
          exact ⟨by omega, by simpa using hj, he⟩
      · rintro ⟨j, i', rfl, hj, he⟩
        cases j with
        | zero =>
          left
          obtain rfl : i = i' := by simpa using hj
          rcases hws with ⟨_, rfl⟩ | ⟨hn, _⟩
          · simp
          · contradiction
        | succ j =>
          right
          use j, i'
          exact ⟨by omega, by simpa using hj, he⟩
    · rw [List.pairwise_append]
      refine ⟨?_, hlt, ?_⟩
      · rcases hws with ⟨_, rfl⟩ | ⟨_, rfl⟩ <;> simp
      · intro k hk k' hk'
        obtain ⟨j, _, rfl, _⟩ := (hmem k').mp hk'
        rcases hws with ⟨_, rfl⟩ | ⟨_, rfl⟩
        · obtain rfl : k = n := by simpa using hk
          omega
        · cases hk

end Batch

namespace Item

/-- There is a result for every item and time. -/
theorem exists_tells (now : Timestamp) (i : Item) :
  ∃ r : RowResult, r.Tells now i
  := by
  obtain ⟨r, _, _, h, _⟩ := Batch.exists_step now {} i 0
  exact ⟨r, h⟩

/-- The results that tell what came of items are determined by a function from items to results. -/
theorem eq_map_of_tells {now : Timestamp} {result : Item → RowResult}
    (h : ∀ i, (result i).Tells now i) {items : List Item} {rs : List RowResult}
    (hrs : List.Forall₂ (fun i r => RowResult.Tells now i r) items rs) :
  rs = items.map result
  := by
  induction hrs with
  | nil => rfl
  | cons hr _ ih => rw [ih, List.map_cons, Batch.tells_unique now hr (h _)]

/-- A batch has the results that a function from items to results tells, and warnings at the
positions of the items with an error. -/
theorem exists_renderAll {now : Timestamp} {result : Item → RowResult}
    (h : ∀ i, (result i).Tells now i) (items : List Item) :
  ∃ ws, renderAll now items = .ok ⟨items.map result, ws⟩
    ∧ ws.Pairwise (· < ·)
    ∧ ∀ n, n ∈ ws ↔ ∃ i, items[n]? = some i ∧ i.HasError now
  := by
  obtain ⟨rs, ws, hok, hrs, hmem, hlt⟩ := Batch.exists_run now {} items 0
  obtain rfl := eq_map_of_tells h hrs
  use ws
  exact ⟨by simpa [renderAll] using hok, hlt, by simpa using hmem⟩

/-- Rendering an item fails only with an error of one of its documents. A batch always has a
result for each of its items, in order, which is a function of the item and the time alone: the
row of twenty fields that the item renders to, or the error that it fails with. So the results of
two batches in a row are the results of the one, then those of the other. The positions of
warnings, in increasing order, are those of the items with an error. -/
theorem exists_results (now : Timestamp) :
  (∀ i : Item, FailsOnly IsError (i.render now))
  ∧ ∃ result : Item → RowResult, (∀ i, (result i).Tells now i)
    ∧ (∀ items, ∃ ws, renderAll now items = .ok ⟨items.map result, ws⟩
      ∧ ws.Pairwise (· < ·)
      ∧ ∀ n, n ∈ ws ↔ ∃ i, items[n]? = some i ∧ i.HasError now)
    ∧ ∀ items more, ∃ b c d, renderAll now items = .ok b ∧ renderAll now more = .ok c
      ∧ renderAll now (items ++ more) = .ok d ∧ d.results = b.results ++ c.results
  := by
  choose result h using exists_tells now
  refine ⟨failsOnly_render now, result, h, exists_renderAll h, ?_⟩
  intro items more
  obtain ⟨_, hb, _⟩ := exists_renderAll h items
  obtain ⟨_, hc, _⟩ := exists_renderAll h more
  obtain ⟨_, hd, _⟩ := exists_renderAll h (items ++ more)
  exact ⟨_, _, _, hb, hc, hd, by simp⟩

end Item

end PodTable
