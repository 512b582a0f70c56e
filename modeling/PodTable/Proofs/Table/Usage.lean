import Mathlib.Data.Rat.Floor
import Mathlib.Tactic.FieldSimp
import Mathlib.Tactic.Linarith
import PodTable.Proofs.Outcome
import PodTable.Proofs.Table.Cells
import PodTable.Proofs.Text.Digits

/-!
# The usage in a row

The cells for a resource show its requests and limits with a colon between them, what is used of
it, and percentages. The percentages follow from the other two cells: they are what the numbers in
these cells give, rounded down, and not what the bytes behind them would give.
`Item.recomputes_usage` says so of every row.
-/

namespace PodTable

open Text (numeral)

/-! ### Percentages -/

/-- The text of the percentage of `total` that `value` is, rounded down. There is none of zero. -/
def percentageText (value total : ℤ) : String :=
  if total = 0 then notAvailable else numeral ⌊(100 * value / total : ℚ)⌋

/-- Division that rounds down gives the floor of the quotient, below zero too. -/
theorem fdiv_eq_floor (a b : ℤ) :
  a.fdiv b = ⌊(a / b : ℚ)⌋
  := by
  obtain ⟨n, rfl | rfl⟩ := b.eq_nat_or_neg
  · rw [Int.fdiv_eq_ediv_of_nonneg a (Int.natCast_nonneg n), Int.cast_natCast,
      Rat.floor_intCast_div_natCast]
  · have hneg : (a / (-n : ℤ) : ℚ) = (-a : ℤ) / (n : ℕ) := by
      push_cast
      rw [div_neg, neg_div]
    rw [hneg, Rat.floor_intCast_div_natCast, ← Int.fdiv_eq_ediv_of_nonneg _ (Int.natCast_nonneg n),
      ← Int.neg_fdiv_neg, neg_neg]

theorem percentageCell_eq (value total : ℤ) :
  percentageCell value total = percentageText value total
  := by
  rw [percentageCell, percentageText]
  split
  · rfl
  · rename_i h
    rw [percentage, if_neg h, fdiv_eq_floor]
    push_cast
    rw [mul_comm]

theorem numeral_ne_notAvailable (i : ℤ) :
  numeral i ≠ notAvailable
  := by
  intro h
  apply Text.notMem_numeral (c := 'n') (by decide) (by decide) i
  rw [h]
  decide

/-- There is no percentage of what is shown as zero, and of nothing else. -/
theorem percentageText_eq_notAvailable_iff (value total : ℤ) :
  percentageText value total = notAvailable ↔ numeral total = "0"
  := by
  have hzero : numeral total = "0" ↔ total = 0 := Text.numeral_inj (j := 0)
  rw [hzero, percentageText]
  split
  · simpa
  · simpa [numeral_ne_notAvailable]

/-! ### Cells -/

theorem colon_notMem_numeral (i : ℤ) :
  ':' ∉ (numeral i).toList
  := Text.notMem_numeral (by decide) (by decide) i

/-- Both numbers of a pair can be read off its text. -/
theorem pairCell_inj {r l r' l' : ℤ} :
  pairCell r l = pairCell r' l' ↔ r = r' ∧ l = l'
  := by
  have htext (i j : ℤ) : (pairCell i j).toList = (numeral i).toList ++ ':' :: (numeral j).toList := by
    simp [pairCell]
  rw [← String.toList_inj, htext, htext,
    List.append_cons_inj_of_notMem (colon_notMem_numeral r) (colon_notMem_numeral l),
    String.toList_inj, String.toList_inj, Text.numeral_inj, Text.numeral_inj]
  simp

/-- A number of bytes has no whole mebibyte when it is smaller than one. -/
theorem mebibytes_eq_zero_iff (bytes : ℤ) :
  mebibytes bytes = 0 ↔ |bytes| < 1048576
  := by
  have hsize : (mebibytes bytes).natAbs = bytes.natAbs / 1048576 := Int.natAbs_tdiv bytes mebibyte
  rw [Int.abs_eq_natAbs]
  omega

/-- The names of the columns that show a resource: requests and limits, usage, and usage as a
percentage of both. -/
structure UsageColumns where
  totals : String
  used : String
  ofRequests : String
  ofLimits : String

namespace UsageColumns

/-- The columns of processing. -/
def cpu : UsageColumns := ⟨"CPU(R:L)", "CPU", "%CPU/R", "%CPU/L"⟩

/-- The columns of memory. -/
def memory : UsageColumns := ⟨"MEM(R:L)", "MEM", "%MEM/R", "%MEM/L"⟩

/-- The names in a list. -/
def names (g : UsageColumns) : List String := [g.totals, g.used, g.ofRequests, g.ofLimits]

end UsageColumns

namespace Row

/-- The row shows the requests `r`, the limits `l` and the usage `c`. -/
structure Shows (row : Row) (g : UsageColumns) (r l c : ℤ) : Prop where
  totals : row.cell? g.totals = some (numeral r ++ ":" ++ numeral l)
  used : row.cell? g.used = some (numeral c)

/-- Whatever numbers the row shows, its percentages are what these numbers give, and they are
missing exactly where the number shown is zero. -/
def Recomputes (row : Row) (g : UsageColumns) : Prop :=
  ∀ r l c, row.Shows g r l c →
    row.cell? g.ofRequests = some (percentageText c r)
    ∧ row.cell? g.ofLimits = some (percentageText c l)
    ∧ (row.cell? g.ofRequests = some notAvailable ↔ numeral r = "0")
    ∧ (row.cell? g.ofLimits = some notAvailable ↔ numeral l = "0")

variable {row : Row} {g : UsageColumns} {r l c r' l' c' : ℤ}

/-- The numbers shown can be read off the row. -/
theorem Shows.unique (h : row.Shows g r l c) (h' : row.Shows g r' l' c') :
  r = r' ∧ l = l' ∧ c = c'
  := by
  have htotals := Option.some.inj (h.totals.symm.trans h'.totals)
  have hused := Option.some.inj (h.used.symm.trans h'.used)
  obtain ⟨hr, hl⟩ := pairCell_inj.mp htotals
  exact ⟨hr, hl, Text.numeral_inj.mp hused⟩

/-- A row whose percentages are right for some numbers that it shows recomputes them. -/
theorem recomputes_of_shows (h : row.Shows g r l c)
    (hr : row.cell? g.ofRequests = some (percentageText c r))
    (hl : row.cell? g.ofLimits = some (percentageText c l)) :
  row.Recomputes g
  := by
  intro r' l' c' h'
  obtain ⟨rfl, rfl, rfl⟩ := h.unique h'
  refine ⟨hr, hl, ?_, ?_⟩
  · rw [hr, Option.some_inj, percentageText_eq_notAvailable_iff]
  · rw [hl, Option.some_inj, percentageText_eq_notAvailable_iff]

end Row

/-! ### Rows with and without usage -/

namespace View

variable (v : View)

/-- Without a sample of the usage, nothing is available. -/
theorem cell?_of_usage_eq_none (h : v.usage = none) (name : String)
    (hname : name ∈ UsageColumns.cpu.names ++ UsageColumns.memory.names) :
  v.row.cell? name = some notAvailable
  := by
  rw [cell?_row]
  simp only [UsageColumns.names, UsageColumns.cpu, UsageColumns.memory, List.cons_append,
    List.nil_append, List.mem_cons, List.not_mem_nil, or_false] at hname
  obtain rfl | rfl | rfl | rfl | rfl | rfl | rfl | rfl := hname <;>
    simp [columns, cpuTotalsCell, memoryTotalsCell, totals, Pod.shownTotals, usageCells,
      UsageCells.ofUsage, h]

variable {v} {u : PodUsage} (h : v.usage = some u)

include h

theorem totals_eq :
  v.totals = some v.pod.totals
  := by
  rw [totals, Pod.shownTotals, h]
  rfl

theorem usageCells_eq :
  v.usageCells = UsageCells.ofAmount u.total v.pod.totals
  := by
  rw [usageCells, h]
  rfl

theorem shows_cpu :
  v.row.Shows .cpu v.pod.totals.requests.cpu v.pod.totals.limits.cpu u.total.cpu
  := by
  constructor
  · simp [UsageColumns.cpu, cell?_row, columns, totals_eq h, cpuTotalsCell, pairCell]
  · simp [UsageColumns.cpu, cell?_row, columns, usageCells_eq h, UsageCells.ofAmount]

theorem shows_memory :
  v.row.Shows .memory (mebibytes v.pod.totals.requests.memory)
    (mebibytes v.pod.totals.limits.memory) (mebibytes u.total.memory)
  := by
  constructor
  · simp [UsageColumns.memory, cell?_row, columns, totals_eq h, memoryTotalsCell, pairCell]
  · simp [UsageColumns.memory, cell?_row, columns, usageCells_eq h, UsageCells.ofAmount]

theorem recomputes_cpu :
  v.row.Recomputes .cpu
  := by
  apply Row.recomputes_of_shows (shows_cpu h)
  · simp [UsageColumns.cpu, cell?_row, columns, usageCells_eq h, UsageCells.ofAmount,
      percentageCell_eq]
  · simp [UsageColumns.cpu, cell?_row, columns, usageCells_eq h, UsageCells.ofAmount,
      percentageCell_eq]

theorem recomputes_memory :
  v.row.Recomputes .memory
  := by
  apply Row.recomputes_of_shows (shows_memory h)
  · simp [UsageColumns.memory, cell?_row, columns, usageCells_eq h, UsageCells.ofAmount,
      percentageCell_eq]
  · simp [UsageColumns.memory, cell?_row, columns, usageCells_eq h, UsageCells.ofAmount,
      percentageCell_eq]

end View

namespace Source

open Outcome

/-- A sample is missing only where null is reported. -/
theorem exists_of_usage {usage : Document} {sample : Option PodUsage}
    (h : Source.usage usage = .ok sample) (hnull : usage ≠ .null) :
  ∃ u, sample = some u
  := by
  cases usage with
  | null => contradiction
  | object es =>
    obtain ⟨metadata, _, h⟩ := bind_eq_ok_iff.mp h
    obtain ⟨u, _, rfl⟩ := map_eq_ok_iff.mp (mapError_eq_ok_iff.mp h)
    exact ⟨u, rfl⟩
  | _ => cases h

end Source

namespace Item

open Outcome

variable {now : Timestamp} {pod usage : Document} {row : Row}

/-- A row of reported documents is that of a pod and maybe a sample read from them. -/
theorem exists_view_of_render [EpochRule] (h : (Item.report pod usage).render now = .ok row) :
  ∃ v : View, Source.pod pod = .ok v.pod ∧ Source.usage usage = .ok v.usage ∧ v.row = row
  := by
  obtain ⟨v, hv, rfl⟩ := map_eq_ok_iff.mp h
  obtain ⟨p, hp, hv⟩ := bind_eq_ok_iff.mp hv
  obtain ⟨u, hu, hv⟩ := bind_eq_ok_iff.mp hv
  obtain ⟨age, _, hv⟩ := bind_eq_ok_iff.mp hv
  cases hv
  exact ⟨⟨p, u, age⟩, hp, hu, rfl⟩

/-- In the row of an item with a sample of the usage, the percentages of either resource follow
from the text of the other cells: they are the numbers shown there divided and rounded down, and
are missing exactly where zero is shown. The numbers shown are those of the pod and of the sample,
with memory in whole mebibytes, so a percentage of memory is missing when the requests or limits
are smaller than one mebibyte. Without a sample none of the eight cells has a value. -/
theorem recomputes_usage [EpochRule] (h : (Item.report pod usage).render now = .ok row) :
  (usage ≠ .null → ∃ p u, Source.pod pod = .ok p ∧ Source.usage usage = .ok (some u)
    ∧ row.Shows .cpu p.totals.requests.cpu p.totals.limits.cpu u.total.cpu
    ∧ row.Shows .memory (mebibytes p.totals.requests.memory) (mebibytes p.totals.limits.memory)
        (mebibytes u.total.memory)
    ∧ row.Recomputes .cpu ∧ row.Recomputes .memory
    ∧ (row.cell? "%MEM/R" = some notAvailable ↔ |p.totals.requests.memory| < 1048576)
    ∧ (row.cell? "%MEM/L" = some notAvailable ↔ |p.totals.limits.memory| < 1048576))
  ∧ (usage = .null → ∀ name ∈ UsageColumns.cpu.names ++ UsageColumns.memory.names,
    row.cell? name = some notAvailable)
  := by
  obtain ⟨v, hpod, husage, rfl⟩ := exists_view_of_render h
  constructor
  · intro hnull
    obtain ⟨u, hu⟩ := Source.exists_of_usage husage hnull
    have hshows := View.shows_memory hu
    have hmemory := View.recomputes_memory hu
    obtain ⟨_, _, hr, hl⟩ := hmemory _ _ _ hshows
    refine ⟨v.pod, u, hpod, hu ▸ husage, View.shows_cpu hu, hshows, View.recomputes_cpu hu, hmemory,
      ?_, ?_⟩
    · rw [← mebibytes_eq_zero_iff, ← Text.numeral_inj]
      exact hr
    · rw [← mebibytes_eq_zero_iff, ← Text.numeral_inj]
      exact hl
  · rintro rfl
    have hnone : v.usage = none := (Except.ok.inj husage).symm
    exact View.cell?_of_usage_eq_none v hnone

/-- A pod with a container that requests a kibibyte, and less than nothing of processing at most. -/
def smallPod : Document :=
  let requests := Document.object [("cpu", .text "250m"), ("memory", .text "1Ki")]
  let limits := Document.object [("cpu", .text "-3"), ("memory", .text "64Mi")]
  let resources := Document.object [("requests", requests), ("limits", limits)]
  let container := Document.object [("name", .text "web"), ("resources", resources)]
  .object
    [ ("metadata", .object [("name", .text "small")]),
      ("spec", .object [("containers", .list [container])]) ]

/-- A sample of the usage of a container. -/
def smallSample : Document :=
  let usage := Document.object [("cpu", .text "10m"), ("memory", .text "3Mi")]
  .object [("containers", .list [.object [("name", .text "web"), ("usage", usage)]])]

/-- The start of a year. -/
def newYear : Timestamp :=
  ⟨⟨2024, 1, 1, by decide, by decide, by decide, by decide, by decide, by decide⟩, .midnight, none⟩

/-- What is shown of the small pod. -/
def smallRow : Row where
  id := "small"
  fields :=
    [ "", "small", "●", "0/0", "0", "", "250:-3000", "0:64", "10", "3", "4", "n/a", "-1", "4",
      "n/a", "n/a", "BE", "<none>", "container ready check failed: 0 of 0", "n/a" ]

theorem recomputes_usage_of_small_pod :
  (Item.report smallPod smallSample).render newYear = .ok smallRow
  ∧ smallSample ≠ .null ∧ smallRow.Shows .cpu 250 (-3000) 10 ∧ smallRow.Shows .memory 0 64 3
  ∧ (∃ p, Source.pod smallPod = .ok p ∧ p.totals.requests.memory = 1024)
  ∧ smallRow.cell? "%CPU/L" = some (numeral ⌊(100 * (10 : ℤ) / (-3000 : ℤ) : ℚ)⌋)
  ∧ smallRow.cell? "%MEM/R" = some notAvailable
  := by
  have hrow : (Item.report smallPod smallSample).render newYear = .ok smallRow := rfl
  have hsample : smallSample ≠ .null := by
    rintro ⟨⟩
  have hcpu : smallRow.Shows .cpu 250 (-3000) 10 := ⟨rfl, rfl⟩
  have hmemory : smallRow.Shows .memory 0 64 3 := ⟨rfl, rfl⟩
  obtain ⟨_, _, _, _, _, _, hpercent, hpercent', _⟩ := (recomputes_usage hrow).1 hsample
  obtain ⟨_, hlimits, _⟩ := hpercent _ _ _ hcpu
  obtain ⟨_, _, hmissing, _⟩ := hpercent' _ _ _ hmemory
  exact ⟨hrow, hsample, hcpu, hmemory, ⟨_, rfl, rfl⟩, hlimits, hmissing.mpr rfl⟩

end Item

end PodTable
