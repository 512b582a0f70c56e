import Mathlib.Data.List.TakeWhile
import PodTable.Proofs.Pod.Sections
import PodTable.Proofs.Table.Paint

/-!
# The verdict on readiness

Four columns of a row tell of the health of a pod: how many of its containers are ready, how often
they were restarted, its status, and the verdict on its readiness. They are all made from the
statuses that are reported for the pod, and so is the category in which the row is painted.
`Item.row_tells_health` says how they go together in every row.
-/

namespace PodTable

/-! ### Reported statuses -/

namespace Source

open Document Outcome

/-- The entries of the statuses that are reported for the containers of a pod. -/
def reportedStatuses (d : Document) : List Entries :=
  (valueAt (sectionAt d "status") "containerStatuses").items.map entries

/-- Whether a reported status is that of a container that is ready. -/
def reportsReady (es : Entries) : Bool :=
  fieldOr es "ready" (.bool false) "ready" Checked.flag == .sound true

/-- The number of restarts in a reported status. -/
def reportedRestarts (es : Entries) : Nat :=
  (fieldOr es "restartCount" (.int 0) "restart_count" Checked.count).value?.getD 0

/-- The number of containers of a pod that are reported to be ready. -/
def readyCount (d : Document) : Nat := (reportedStatuses d).countP reportsReady

/-- The number of restarts that are reported for the containers of a pod. -/
def restartCount (d : Document) : Nat := ((reportedStatuses d).map reportedRestarts).sum

theorem containerStatus_eq_ok {owner : Owner} {es : Entries} {s : ContainerStatus}
    (h : containerStatus owner es = .ok s) :
  s.ready = reportsReady es ∧ s.restarts = reportedRestarts es
  := by
  obtain ⟨state, _, h⟩ := bind_eq_ok_iff.mp h
  simp only [settle_eq_ok_iff, Checked.seq_eq_sound_iff, Checked.map_eq_sound_iff] at h
  obtain ⟨_, restarts, ⟨_, ready, ⟨_, _, rfl⟩, hready, rfl⟩, hrestarts, rfl⟩ := h
  rw [reportsReady, hready, reportedRestarts, hrestarts]
  cases ready <;> exact ⟨rfl, rfl⟩

/-- The health of a pod that is read is what its statuses report. -/
theorem health_of_pod [EpochRule] {d : Document} {p : Pod} (h : pod d = .ok p) :
  p.statuses.length = (reportedStatuses d).length
  ∧ (Health.ofStatuses p.statuses).ready = readyCount d
  ∧ (Health.ofStatuses p.statuses).restarts = restartCount d
  := by
  have hread := (holdsLists_of_pod h).statuses
  have hready := hread.map_eq_map (fun _ _ _ hs => (containerStatus_eq_ok hs).1)
  have hrestarts := hread.map_eq_map (fun _ _ _ hs => (containerStatus_eq_ok hs).2)
  refine ⟨?_, ?_, ?_⟩
  · simpa [reportedStatuses] using congrArg List.length hready
  · have hcount := congrArg (List.countP id) hready
    simpa [Health.ofStatuses, readyCount, reportedStatuses, List.countP_map, Function.comp_def]
      using hcount
  · have hsum := congrArg List.sum hrestarts
    simpa [Health.ofStatuses, restartCount, reportedStatuses, List.sum_eq_foldr, List.foldr_map]
      using hsum

end Source

/-! ### Verdicts -/

namespace Text

/-- A text with a character that is not blank is not empty when trimmed. -/
theorem trim_ne_nil {cs : List Char} {c : Char} (hmem : c ∈ cs) (hc : isBlank c = false) :
  trim cs ≠ []
  := by
  have hleft : cs.dropWhile isBlank ≠ [] := by
    intro h
    have hblank := List.dropWhile_eq_nil_iff.mp h c hmem
    simp [hc] at hblank
  intro h
  rw [trim, trimBy, List.reverse_eq_nil_iff, List.dropWhile_eq_nil_iff] at h
  -- The first character that is left is not blank, so not all of them can be dropped from the end.
  have hhead := h _ (List.mem_reverse.mpr (List.head_mem hleft))
  rw [List.head_dropWhile_not isBlank hleft] at hhead
  cases hhead

end Text

namespace Health

/-- The text for a pod of whose containers so many are ready, out of a total. -/
def failedCheck (ready total : Nat) : String :=
  "container ready check failed: " ++ Text.numeral ready ++ " of " ++ Text.numeral total

theorem strip_failedCheck (ready total : Nat) :
  (Text.strip (failedCheck ready total)).isEmpty = false
  := by
  have hmem : 'c' ∈ (failedCheck ready total).toList := by
    unfold failedCheck
    simp
  have htrim := Text.trim_ne_nil hmem rfl
  simpa [Text.strip] using htrim

/-- The verdict is empty for a completed pod and for a pod with containers all of which are ready. -/
theorem diagnosis_eq (status : String) (ready total : Nat) :
  Cell.diagnosis (diagnosis status ready total)
    = if status = "Completed" ∨ ready = total ∧ 0 < total then "" else failedCheck ready total
  := by
  unfold diagnosis Status.completed
  by_cases hstatus : status = "Completed"
  · rw [if_pos hstatus, if_pos (.inl hstatus)]
    rfl
  rw [if_neg hstatus]
  by_cases hready : ready = total ∧ 0 < total
  · rw [if_neg (by omega), if_pos (.inr hready)]
    rfl
  · rw [if_pos (by omega), if_neg (by tauto)]
    rfl

end Health

/-! ### Categories -/

namespace Category

/-- The statuses with a category of their own. -/
def fixedStatuses : List String :=
  ["Pending", "ContainerCreating", "PodInitializing", "Initialized", "Completed", "Terminating"]

theorem ofFixedStatus?_eq_none_iff (status : String) :
  ofFixedStatus? status = none ↔ status ∉ fixedStatuses
  := by
  unfold ofFixedStatus? fixedStatuses
  split_ifs <;> simp_all [Status.pending, Status.containerCreating, Status.podInitializing,
    Status.initialized, Status.completed, Status.terminating]

/-- A row is painted as an error if it is not happy and its status has no category of its own. -/
theorem ofStatus_eq_error_iff (status : String) (happy : Bool) :
  ofStatus status happy = error ↔ happy = false ∧ Text.strip status ∉ fixedStatuses
  := by
  rw [← ofFixedStatus?_eq_none_iff, ofStatus]
  cases h : ofFixedStatus? (Text.strip status) with
  | none => cases happy <;> simp
  | some c =>
    have hne : c ≠ error := by
      rintro rfl
      exact ofFixedStatus?_ne_error _ h
    simp [hne]

end Category

/-- What the row says of the health of a pod so many of whose containers are ready, out of a total,
with so many restarts. The verdict is empty exactly for a completed pod and for a pod all of whose
containers are ready, if it has any, and the row is painted as an error exactly for another verdict
with a status that has no category of its own. -/
structure Row.TellsHealth (row : Row) (ready total restarts : Nat) (status verdict : String)
    (category : Category) : Prop where
  readyCell : row.cell? "READY" = some (Text.numeral ready ++ "/" ++ Text.numeral total)
  restartsCell : row.cell? "RESTARTS" = some (Text.numeral restarts)
  statusCell : row.cell? "STATUS" = some status
  verdictCell : row.cell? "VALID" = some verdict
  verdict_eq_empty_iff : verdict = "" ↔ status = "Completed" ∨ ready = total ∧ 0 < total
  verdict_names : verdict ≠ "" → verdict = Health.failedCheck ready total
  painted : header.category? row.fields = some category
  error_iff : category = .error ↔ verdict ≠ "" ∧ Text.strip status ∉ Category.fixedStatuses

/-- The row of a pod tells the health of its containers. -/
theorem View.tellsHealth_row (v : View) :
  ∃ verdict category, v.row.TellsHealth v.health.ready v.containerCount v.health.restarts
    v.pod.status verdict category
  := by
  have hverdict : v.row.cell? "VALID" = some (Cell.diagnosis v.diagnosis) := v.cell?_row "VALID"
  rw [diagnosis, Health.diagnosis_eq] at hverdict
  have hhappy : header.isHappy v.row.fields = decide
      (v.pod.status = "Completed" ∨ v.health.ready = v.containerCount ∧ 0 < v.containerCount) := by
    rw [Header.isHappy, ← Row.cell?, hverdict]
    split_ifs with h
    · rw [decide_eq_true h]
      rfl
    · simpa [h] using Health.strip_failedCheck _ _
  have hne : Health.failedCheck v.health.ready v.containerCount ≠ "" := by
    intro h
    have hstrip := Health.strip_failedCheck v.health.ready v.containerCount
    rw [h] at hstrip
    cases hstrip
  refine ⟨_, _, v.cell?_row "READY", v.cell?_row "RESTARTS", v.cell?_row "STATUS", hverdict, ?_, ?_,
    v.category?_row, ?_⟩
  · split_ifs with h <;> simp [h, hne]
  · split_ifs with h <;> simp
  · rw [Category.ofStatus_eq_error_iff, hhappy]
    split_ifs with h <;> simp [h, hne]

namespace Item

/-- Every row tells the health that the statuses of its pod report: how many of them report a
container as ready, out of how many, the sum of their restarts, and the verdict and the category that
follow from these numbers and from the status. -/
theorem row_tells_health [EpochRule] {now : Timestamp} {pod usage : Document} {row : Row}
    (h : (Item.report pod usage).render now = .ok row) :
  Source.readyCount pod ≤ (Source.reportedStatuses pod).length
  ∧ ∃ status verdict category,
      row.TellsHealth (Source.readyCount pod) (Source.reportedStatuses pod).length
        (Source.restartCount pod) status verdict category
  := by
  obtain ⟨v, hpod, _, rfl⟩ := exists_view_of_render h
  obtain ⟨htotal, hready, hrestarts⟩ := Source.health_of_pod hpod
  rw [← htotal, ← hready, ← hrestarts]
  exact ⟨Health.ready_le_length _, v.pod.status, v.tellsHealth_row⟩

/-- A pod with a container that is ready after two restarts, and one that waits after three. -/
def crashingPod : Document :=
  let ready :=
    Document.object [("name", .text "web"), ("ready", .bool true), ("restartCount", .int 2)]
  let waiting := Document.object [("waiting", .object [("reason", .text "CrashLoopBackOff")])]
  let crashing :=
    Document.object [("name", .text "job"), ("restartCount", .text "3"), ("state", waiting)]
  .object
    [ ("metadata", .object [("name", .text "crashing")]),
      ("status", .object [("containerStatuses", .list [ready, crashing])]) ]

theorem row_tells_health_of_crashing_pod :
  ∃ row, (Item.report crashingPod .null).render newYear = .ok row
    ∧ row.TellsHealth 1 2 5 "CrashLoopBackOff" "container ready check failed: 1 of 2" .error
  := by
  obtain ⟨row, hrow⟩ : ∃ row, (Item.report crashingPod .null).render newYear = .ok row := ⟨_, rfl⟩
  obtain ⟨_, status, verdict, category, htells⟩ := row_tells_health hrow
  have hstatus : row.cell? "STATUS" = some "CrashLoopBackOff" := by
    obtain rfl := Except.ok.inj hrow
    rfl
  obtain rfl := Option.some.inj (htells.statusCell.symm.trans hstatus)
  have hverdict : verdict = "container ready check failed: 1 of 2" :=
    htells.verdict_names (by rw [ne_eq, htells.verdict_eq_empty_iff]; decide)
  subst hverdict
  obtain rfl : category = .error := htells.error_iff.mpr (by decide)
  exact ⟨row, hrow, htells⟩

end Item

end PodTable
