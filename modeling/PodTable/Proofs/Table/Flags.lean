import PodTable.Proofs.Outcome
import PodTable.Proofs.Table.Cells
import PodTable.Proofs.Table.Usage
import PodTable.Proofs.Table.Written
import PodTable.Proofs.Time.Difference

/-!
# The flags of columns

A column is flagged when what it shows depends on a sample of the usage, or on the time. Two rows of
one pod agree in every column that is not flagged for what the rows are made from besides the pod,
as `Item.render_agrees_off_flags` says of all samples and of all times.
-/

namespace PodTable

namespace Row

/-- The rows have one name, and the same field at each position of a column that is not flagged. -/
structure AgreesOff (flag : Column → Bool) (r r' : Row) : Prop where
  id : r.id = r'.id
  field : ∀ (i : Nat) (c : Column), header[i]? = some c → flag c = false →
    r.fields[i]? = r'.fields[i]?

/-- Nothing is available in the row at the positions of flagged columns. -/
def IsBlankAt (flag : Column → Bool) (r : Row) : Prop :=
  ∀ (i : Nat) (c : Column), header[i]? = some c → flag c = true → r.fields[i]? = some notAvailable

end Row

namespace View

/-- A column shows the same of two views of one pod if both have the same usage where the column is
flagged for it, and the same age where it is flagged for that. -/
theorem cell_eq_of_flags {v w : View} (hpod : v.pod = w.pod) :
  ∀ c ∈ columns, (c.1.metrics = true → v.usage = w.usage) → (c.1.time = true → v.age = w.age) →
    c.2 v = c.2 w
  := by
  have husage (h : v.usage = w.usage) : v.usageCells = w.usageCells ∧ v.totals = w.totals := by
    simp [usageCells, totals, hpod, h]
  simp +contextual [columns, readyCell, health, containerCount, diagnosis, hpod, husage]

/-- A position of the header is that of a column with the cell that it shows. -/
theorem exists_column_at {i : Nat} {c : Column} (h : header[i]? = some c) :
  ∃ cell ∈ columns, cell.1 = c ∧ ∀ v : View, v.row.fields[i]? = some (cell.2 v)
  := by
  rw [header, List.getElem?_map] at h
  obtain ⟨cell, hcell, rfl⟩ := Option.map_eq_some_iff.mp h
  refine ⟨cell, List.mem_of_getElem? hcell, rfl, fun v => ?_⟩
  rw [getElem?_row, hcell, Option.map_some]

/-- The rows of two views of one pod agree off a flag if the views differ at most in what this flag
stands for. -/
theorem agreesOff_row {v w : View} {flag : Column → Bool} (hpod : v.pod = w.pod)
    (husage : flag = Column.metrics ∨ v.usage = w.usage)
    (hage : flag = Column.time ∨ v.age = w.age) :
  v.row.AgreesOff flag w.row
  := by
  constructor
  · rw [row, row, hpod]
  · intro i c hi hflag
    obtain ⟨cell, hcell, rfl, hfield⟩ := exists_column_at hi
    rw [hfield, hfield, cell_eq_of_flags hpod cell hcell]
    · intro hmetrics
      obtain rfl | husage := husage
      · exact absurd hmetrics (by simp [hflag])
      · exact husage
    · intro htime
      obtain rfl | hage := hage
      · exact absurd htime (by simp [hflag])
      · exact hage

/-- Without a sample nothing is available in the columns that are flagged for the usage. -/
theorem isBlankAt_row {v : View} (h : v.usage = none) :
  v.row.IsBlankAt Column.metrics
  := by
  have hcells : ∀ c ∈ columns, c.1.metrics = true → c.2 v = notAvailable := by
    simp [columns, usageCells, totals, Pod.shownTotals, UsageCells.ofUsage, cpuTotalsCell,
      memoryTotalsCell, h]
  intro i c hi hflag
  obtain ⟨cell, hcell, rfl, hfield⟩ := exists_column_at hi
  rw [hfield, hcells cell hcell hflag]

end View

namespace Item

open Outcome

variable {pod usage usage' : Document} {now now' : Timestamp} {row row' : Row}

/-- Reported documents that can be read have a row at every time. -/
theorem exists_render [EpochRule] {p : Pod} {u : Option PodUsage} (hpod : Source.pod pod = .ok p)
    (husage : Source.usage usage = .ok u) (now : Timestamp) :
  ∃ age, Age.cell p.created now = .ok age
    ∧ (Item.report pod usage).render now = .ok (View.row ⟨p, u, age⟩)
    ∧ (Item.report pod usage).isWritable now = (⟨p, u, age⟩ : View).isWritable
  := by
  obtain ⟨age, hage⟩ := Age.exists_cell p.created now
  have hview : (Item.report pod usage).view now = .ok ⟨p, u, age⟩ := by
    simp [view, hpod, husage, hage, Bind.bind, Except.bind, Except.mapError]
  refine ⟨age, hage, ?_, ?_⟩
  · rw [render, hview]
    rfl
  · rw [isWritable, hview]

/-- A row is that of the pod and of the sample that are read, at an age that follows from the pod and
the time. -/
theorem exists_aged_view [EpochRule] (h : (Item.report pod usage).render now = .ok row) :
  ∃ v : View, Source.pod pod = .ok v.pod ∧ Source.usage usage = .ok v.usage
    ∧ Age.cell v.pod.created now = .ok v.age ∧ v.row = row
  := by
  obtain ⟨v, hpod, husage, rfl⟩ := exists_view_of_render h
  obtain ⟨age, hage, hrow, _⟩ := exists_render hpod husage now
  exact ⟨⟨v.pod, v.usage, age⟩, hpod, husage, hage, Except.ok.inj (hrow.symm.trans h)⟩

theorem agreesOff_metrics [EpochRule] (h : (Item.report pod usage).render now = .ok row)
    (h' : (Item.report pod usage').render now = .ok row') :
  row.AgreesOff Column.metrics row'
  := by
  obtain ⟨v, hpod, _, hage, rfl⟩ := exists_aged_view h
  obtain ⟨w, hpod', _, hage', rfl⟩ := exists_aged_view h'
  have hsame : v.pod = w.pod := Except.ok.inj (hpod.symm.trans hpod')
  rw [← hsame] at hage'
  exact View.agreesOff_row hsame (.inl rfl) (.inr (Except.ok.inj (hage.symm.trans hage')))

theorem agreesOff_time [EpochRule] (h : (Item.report pod usage).render now = .ok row)
    (h' : (Item.report pod usage).render now' = .ok row') :
  row.AgreesOff Column.time row'
  := by
  obtain ⟨v, hpod, husage, rfl⟩ := exists_view_of_render h
  obtain ⟨w, hpod', husage', rfl⟩ := exists_view_of_render h'
  have hsame : v.pod = w.pod := Except.ok.inj (hpod.symm.trans hpod')
  exact View.agreesOff_row hsame (.inr (Except.ok.inj (husage.symm.trans husage'))) (.inl rfl)

/-- The flags of the columns are right about the rows of a pod. Whatever samples of the usage two rows
are made with, or without one, they have one name and agree at each position that is not flagged for
the usage. Without a sample nothing is available at the flagged positions, and a pod that has a row
without a sample has one with every sample that can be read. If the former can be written, so can the
latter, unless there are more containers than any document has. Whatever the time is, there is a row
as well, which can be written at all times or at none, and it agrees at each position that is not
flagged for the time. -/
theorem render_agrees_off_flags [EpochRule] (pod : Document) (now : Timestamp) :
  (∀ usage usage' row row', (Item.report pod usage).render now = .ok row →
    (Item.report pod usage').render now = .ok row' → row.AgreesOff Column.metrics row')
  ∧ (∀ row, (Item.report pod .null).render now = .ok row →
    row.IsBlankAt Column.metrics
    ∧ ∀ usage sample, Source.usage usage = .ok sample →
        (∃ row', (Item.report pod usage).render now = .ok row')
        ∧ (containerCount pod usage < 10 ^ 4000 → (Item.report pod .null).isWritable now = true →
            (Item.report pod usage).isWritable now = true))
  ∧ (∀ usage now' row, (Item.report pod usage).render now = .ok row →
    ∃ row', (Item.report pod usage).render now' = .ok row' ∧ row.AgreesOff Column.time row'
      ∧ (Item.report pod usage).isWritable now' = (Item.report pod usage).isWritable now)
  := by
  refine ⟨fun _ _ _ _ => agreesOff_metrics, ?_, ?_⟩
  · intro row h
    obtain ⟨v, hpod, husage, rfl⟩ := exists_view_of_render h
    have hnone : v.usage = none := (Except.ok.inj husage).symm
    refine ⟨View.isBlankAt_row hnone, ?_⟩
    intro usage sample hsample
    obtain ⟨_, _, hrow, hwritable⟩ := exists_render hpod hsample now
    refine ⟨⟨_, hrow⟩, ?_⟩
    intro hcount hnull
    have hread : Source.usage .null = .ok none := rfl
    obtain ⟨_, _, _, hwritable'⟩ := exists_render hpod hread now
    rw [hwritable'] at hnull
    rw [hwritable]
    exact isWritable_of_sample hpod hsample hcount hnull
  · intro usage now' row h
    obtain ⟨v, hpod, husage, _⟩ := exists_view_of_render h
    obtain ⟨_, _, _, hwritable⟩ := exists_render hpod husage now
    obtain ⟨_, _, hrow, hwritable'⟩ := exists_render hpod husage now'
    refine ⟨_, hrow, agreesOff_time h hrow, ?_⟩
    -- The numbers in a row do not depend on the age.
    rw [hwritable, hwritable']
    rfl

/-- A pod that was created at the start of a year. -/
def newPod : Document :=
  .object [("metadata", .object [("name", .text "new"), ("creationTimestamp", .text "2024-01-01")])]

/-- One minute after the start of the year. -/
def minuteLater : Timestamp :=
  { newYear with clock := { Clock.midnight with minute := 1, minute_lt := by decide } }

theorem render_agrees_off_flags_of_new_pod :
  ∃ bare used later, (Item.report newPod .null).render newYear = .ok bare
    ∧ (Item.report newPod smallSample).render newYear = .ok used
    ∧ (Item.report newPod smallSample).render minuteLater = .ok later
    ∧ bare.AgreesOff Column.metrics used ∧ bare.IsBlankAt Column.metrics
    ∧ (Item.report newPod smallSample).isWritable newYear = true
    ∧ used.AgreesOff Column.time later
    ∧ used.cell? "CPU" = some "10" ∧ used.cell? "AGE" = some "0s" ∧ later.cell? "AGE" = some "60s"
  := by
  have hcell : ∀ {usage now row name}, (Item.report newPod usage).render now = .ok row →
      row.cell? name = ((Item.report newPod usage).render now).toOption.bind (·.cell? name) := by
    intro _ _ _ _ h
    rw [h]
    rfl
  obtain ⟨bare, hbare⟩ : ∃ bare, (Item.report newPod .null).render newYear = .ok bare := ⟨_, rfl⟩
  obtain ⟨hmetrics, hnull, htime⟩ := render_agrees_off_flags newPod newYear
  obtain ⟨hblank, hany⟩ := hnull bare hbare
  obtain ⟨⟨used, hused⟩, hwritable⟩ := hany smallSample _ rfl
  obtain ⟨later, hlater, hagrees, _⟩ := htime smallSample minuteLater used hused
  have hcount : containerCount newPod smallSample < 10 ^ 4000 := by
    have hone : containerCount newPod smallSample = 1 := rfl
    rw [hone]
    exact one_lt_pow₀ (by norm_num) (by norm_num)
  refine ⟨bare, used, later, hbare, hused, hlater, hmetrics _ _ _ _ hbare hused, hblank,
    hwritable hcount (by decide +kernel), hagrees, ?_, ?_, ?_⟩
  · rw [hcell hused]
    decide +kernel
  · rw [hcell hused]
    decide +kernel
  · rw [hcell hlater]
    decide +kernel

end Item

end PodTable
