import PodTable.Proofs.Pod.Rearranged
import PodTable.Proofs.Pod.Totals
import PodTable.Proofs.Table.Cells
import PodTable.Proofs.Table.Usage
import PodTable.Table.Written

/-!
# Rows of rearranged items

The row of an item does not depend on the order of the entries of objects in its documents
(`Item.render_of_rearranged_keys`). Nor does it depend on the order of the containers that a pod
declares or that a sample holds, while the order of the reported statuses shows in two columns at
most (`Item.render_of_reordered_lists`).
-/

namespace PodTable

theorem Health.ofStatuses_perm {ss ts : List ContainerStatus} (h : ss.Perm ts) :
  Health.ofStatuses ss = Health.ofStatuses ts
  := by
  unfold Health.ofStatuses
  congr 1
  · exact h.countP_eq _
  · exact h.countP_eq _
  · exact h.foldr_eq' (by omega) 0

theorem Amount.sum_perm {as bs : List Amount} (h : as.Perm bs) :
  Amount.sum as = Amount.sum bs
  := by
  apply h.foldl_eq'
  intro a _ b _ c
  apply Amount.ext <;> simp [Int.add_right_comm]

/-- The cell for labels shows the sorted labels. -/
theorem Cell.labels_eq_of_byKey (ls : List (String × String)) :
  Cell.labels ls
    = if (Checked.byKey ls).isEmpty then noLabels
      else " ".intercalate ((Checked.byKey ls).map (fun l => l.1 ++ "=" ++ l.2))
  := by
  rw [(Checked.byKey_perm ls).isEmpty_eq]
  rfl

namespace Source

variable {free : Set (List String)}

theorem PodsAlike.totals_eq {p q : Pod} (h : PodsAlike free p q) :
  p.totals = q.totals
  := by
  obtain ⟨hcontainers, hinit, _, _, _⟩ := h
  simp only [Pod.totals, Pod.requests, Pod.limits, Pod.total,
    Container.groupTotal_perm _ hcontainers.1, Container.groupTotal_perm _ hinit.1]

theorem PodsAlike.labelsCell_eq {p q : Pod} (h : PodsAlike free p q) :
  Cell.labels p.labels = Cell.labels q.labels
  := by
  obtain ⟨_, _, _, _, hlabels⟩ := h
  rw [Cell.labels_eq_of_byKey, Cell.labels_eq_of_byKey, hlabels]

/-- The status of a pod shows the order of its statuses only. -/
theorem PodsAlike.status_eq {p q : Pod} (h : PodsAlike free p q)
    (hstatuses : ["status", "containerStatuses"] ∉ free)
    (hinitStatuses : ["status", "initContainerStatuses"] ∉ free) :
  p.status = q.status
  := by
  obtain ⟨_, hinit, h, h', _⟩ := h
  simp only [Pod.status, Pod.initLabel, Pod.ownLabel, hinit.1.length_eq, h.2 hstatuses, h'.2 hinitStatuses]

theorem SamplesAlike.total_eq {u w : PodUsage} (h : SamplesAlike free u w) :
  u.total = w.total
  := by
  obtain ⟨h⟩ := h
  exact Amount.sum_perm (h.1.map _)

end Source

open Document Source

/-- Views, at one age, of pods that are alike with samples that are alike. -/
inductive ViewsAlike (free freeSample : Set (List String)) : View → View → Prop
  | intro {p q : Pod} {u w : Option PodUsage} {age : String} (hpod : PodsAlike free p q)
      (husage : Option.Rel (SamplesAlike freeSample) u w) :
      ViewsAlike free freeSample ⟨p, u, age⟩ ⟨q, w, age⟩

namespace ViewsAlike

variable {free freeSample : Set (List String)} {v w : View}

theorem health_eq (h : ViewsAlike free freeSample v w) :
  v.health = w.health
  := by
  obtain ⟨⟨_, _, hstatuses, _, _⟩, _⟩ := h
  exact Health.ofStatuses_perm hstatuses.1

theorem containerCount_eq (h : ViewsAlike free freeSample v w) :
  v.containerCount = w.containerCount
  := by
  obtain ⟨⟨_, _, hstatuses, _, _⟩, _⟩ := h
  exact hstatuses.1.length_eq

theorem usageCells_eq (h : ViewsAlike free freeSample v w) :
  v.usageCells = w.usageCells
  := by
  obtain ⟨hpod, husage⟩ := h
  cases husage with
  | none => rfl
  | some hu => simp only [View.usageCells, UsageCells.ofUsage, hu.total_eq, hpod.totals_eq]

theorem totals_eq (h : ViewsAlike free freeSample v w) :
  v.totals = w.totals
  := by
  obtain ⟨hpod, husage⟩ := h
  cases husage with
  | none => rfl
  | some hu => simp only [View.totals, Pod.shownTotals, Option.map_some, hpod.totals_eq]

theorem numbers_eq (h : ViewsAlike free freeSample v w) :
  v.numbers = w.numbers
  := by
  rw [View.numbers, View.numbers, h.health_eq, h.containerCount_eq]
  obtain ⟨hpod, husage⟩ := h
  cases husage with
  | none => rfl
  | some hu => simp only [UsageCells.numbers, hu.total_eq, hpod.totals_eq]

theorem id_eq (h : ViewsAlike free freeSample v w) :
  v.row.id = w.row.id
  := by
  obtain ⟨⟨_, _, _, _, _⟩, _⟩ := h
  rfl

/-- Columns show the same of views that are alike, two of them only if the status is the same. -/
theorem cell_eq (h : ViewsAlike free freeSample v w) :
  ∀ c ∈ columns, (c.1.name = "STATUS" ∨ c.1.name = "VALID" → v.pod.status = w.pod.status) →
    c.2 v = c.2 w
  := by
  have hdiagnosis : v.pod.status = w.pod.status →
      Cell.diagnosis v.diagnosis = Cell.diagnosis w.diagnosis := by
    intro hstatus
    rw [View.diagnosis, View.diagnosis, hstatus, h.health_eq, h.containerCount_eq]
  have hready : v.readyCell = w.readyCell := by
    rw [View.readyCell, View.readyCell, h.health_eq, h.containerCount_eq]
  have hhealth := h.health_eq
  have hcells := h.usageCells_eq
  have htotals := h.totals_eq
  obtain ⟨hpod, husage⟩ := h
  have hlabels := hpod.labelsCell_eq
  obtain ⟨_, _, _, _, _⟩ := hpod
  simpa [columns, hready, hhealth, hcells, htotals, hlabels] using hdiagnosis

/-- The rows of views that are alike are equal if the status is the same. -/
theorem row_eq (h : ViewsAlike free freeSample v w) (hstatus : v.pod.status = w.pod.status) :
  v.row = w.row
  := by
  have hfields : v.row.fields = w.row.fields :=
    List.map_congr_left (fun c hc => h.cell_eq c hc (fun _ => hstatus))
  rw [Row.mk.injEq]
  exact ⟨h.id_eq, hfields⟩

/-- A field in which the rows of views that are alike differ stands in one of two columns. -/
theorem fields_ne (h : ViewsAlike free freeSample v w) {i : Nat}
    (hne : w.row.fields[i]? ≠ v.row.fields[i]?) :
  ∃ c, header[i]? = some c ∧ (c.name = "STATUS" ∨ c.name = "VALID")
  := by
  rw [View.getElem?_row, View.getElem?_row] at hne
  rw [header, List.getElem?_map]
  cases hc : columns[i]? with
  | none => simp [hc] at hne
  | some c =>
    refine ⟨c.1, rfl, ?_⟩
    by_contra hname
    rw [hc, Option.map_some, Option.map_some,
      h.cell_eq c (List.mem_of_getElem? hc) (fun hc => absurd hc hname)] at hne
    exact hne rfl

end ViewsAlike

namespace Item

variable {free freeSample : Set (List String)} {pod pod' usage usage' : Document}

/-- Rearranged items have views that are alike, or neither has one. -/
theorem agree_view [EpochRule] (now : Timestamp) (hpod : Rearranged free pod pod')
    (husage : Rearranged freeSample usage usage') :
  Agree (ViewsAlike free freeSample) ((Item.report pod usage).view now)
    ((Item.report pod' usage').view now)
  := by
  apply (agree_pod hpod).bind
  intro p q hpq
  apply (agree_usage husage).bind
  intro u w huw
  have hcreated : p.created = q.created := by
    obtain ⟨_, _, _, _, _⟩ := hpq
    rfl
  rw [hcreated]
  apply (Agree.refl _).bind
  rintro age _ rfl
  exact .ok (.intro hpq huw)

theorem isWritable_eq [EpochRule] (now : Timestamp) (hpod : Rearranged free pod pod')
    (husage : Rearranged freeSample usage usage') :
  (Item.report pod usage).isWritable now = (Item.report pod' usage').isWritable now
  := by
  have hview := agree_view now hpod husage
  unfold isWritable
  generalize (Item.report pod usage).view now = x at hview ⊢
  generalize (Item.report pod' usage').view now = y at hview ⊢
  cases hview with
  | error => rfl
  | ok h => simp only [View.isWritable, h.numbers_eq]

/-- Items whose statuses stand in the same order have equal rows, or neither has one. -/
theorem agree_render [EpochRule] (now : Timestamp) (hpod : Rearranged free pod pod')
    (husage : Rearranged freeSample usage usage')
    (hstatuses : ["status", "containerStatuses"] ∉ free)
    (hinitStatuses : ["status", "initContainerStatuses"] ∉ free) :
  Agree Eq ((Item.report pod usage).render now) ((Item.report pod' usage').render now)
  := by
  apply (agree_view now hpod husage).map
  intro v w h
  apply h.row_eq
  obtain ⟨hpod, _⟩ := h
  exact hpod.status_eq hstatuses hinitStatuses

/-- Objects are read as unordered: items that are equal up to the order of the entries of objects,
at any depth, have the same row, or neither has a row. -/
theorem render_of_rearranged_entries [EpochRule] (now : Timestamp) (hpod : Rearranged ∅ pod pod')
    (husage : Rearranged ∅ usage usage') :
  (∀ row, (Item.report pod usage).render now = .ok row
      ↔ (Item.report pod' usage').render now = .ok row)
  ∧ (Item.report pod usage).isWritable now = (Item.report pod' usage').isWritable now
  := by
  constructor
  · exact (agree_render now hpod husage (Set.notMem_empty _) (Set.notMem_empty _)).eq_ok_iff
  · exact isWritable_eq now hpod husage

/-- A pod with the given entries in its metadata. -/
def podWith (metadata : Entries) : Document := .object [("metadata", .object metadata)]

theorem render_of_swapped_labels :
  let tier : String × Document := ("tier", .text "front")
  let app : String × Document := ("app", .text "web")
  let name : String × Document := ("name", .text "web-0")
  ∃ row, (Item.report (podWith [name, ("labels", .object [tier, app])]) .null).render newYear = .ok row
    ∧ (Item.report (podWith [("labels", .object [app, tier]), name]) .null).render newYear = .ok row
    ∧ row.cell? "NAME" = some "web-0"
  := by
  intro tier app name
  have hlabels : Rearranged ∅ (podWith [name, ("labels", .object [tier, app])])
      (podWith [name, ("labels", .object [app, tier])]) :=
    @Rearranged.inEntry _ [] [] _ _ _ (@Rearranged.inEntry _ [name] [] _ _ _
      (.entries (by decide) (.swap _ _ [])))
  have hname : Rearranged ∅ (podWith [name, ("labels", .object [app, tier])])
      (podWith [("labels", .object [app, tier]), name]) :=
    @Rearranged.inEntry _ [] [] _ _ _ (.entries (by decide) (.swap _ _ []))
  obtain ⟨hrow, _⟩ := render_of_rearranged_entries newYear (hlabels.trans hname) (.refl .null)
  exact ⟨_, rfl, (hrow _).mp rfl, rfl⟩

/-- The ways to the lists of the containers that a pod declares. -/
def declarations : Set (List String) := {["spec", "containers"], ["spec", "initContainers"]}

/-- The ways to the lists of the statuses that are reported for a pod. -/
def statuses : Set (List String) :=
  {["status", "containerStatuses"], ["status", "initContainerStatuses"]}

/-- The way to the list of the containers of a sample. -/
def samples : Set (List String) := {["containers"]}

/-- The row of an item does not depend on the order of the containers that the pod declares, nor on
the order of those of the sample. When the reported statuses are reordered there is still a row, and
a field that changes stands under the name of the status or of the diagnosis. -/
theorem render_of_reordered_lists [EpochRule] {now : Timestamp} {row : Row}
    (h : (Item.report pod usage).render now = .ok row) :
  (∀ pod' usage', Rearranged declarations pod pod' → Rearranged samples usage usage' →
    (Item.report pod' usage').render now = .ok row
    ∧ (Item.report pod' usage').isWritable now = (Item.report pod usage).isWritable now)
  ∧ ∀ pod', Rearranged statuses pod pod' →
    ∃ row', (Item.report pod' usage).render now = .ok row'
      ∧ (Item.report pod' usage).isWritable now = (Item.report pod usage).isWritable now
      ∧ row'.id = row.id
      ∧ ∀ i : Nat, row'.fields[i]? ≠ row.fields[i]? →
          ∃ c, header[i]? = some c ∧ (c.name = "STATUS" ∨ c.name = "VALID")
  := by
  constructor
  · intro pod' usage' hpod husage
    constructor
    · have hrender := agree_render now hpod husage (by simp [declarations]) (by simp [declarations])
      exact (hrender.eq_ok_iff row).mp h
    · exact (isWritable_eq now hpod husage).symm
  · intro pod' hpod
    have husage : Rearranged ∅ usage usage := .refl usage
    obtain ⟨v, hv, rfl⟩ := Outcome.map_eq_ok_iff.mp h
    obtain ⟨w, hw, hvw⟩ := (agree_view now hpod husage).exists_ok hv
    refine ⟨w.row, ?_, (isWritable_eq now hpod husage).symm, hvw.id_eq.symm, fun i => hvw.fields_ne⟩
    rw [render, hw]
    rfl

/-- A pod with the given containers and statuses. -/
def podOf (containers statuses : List Document) : Document :=
  .object
    [ ("metadata", .object [("name", .text "pair")]),
      ("spec", .object [("containers", .list containers)]),
      ("status", .object [("containerStatuses", .list statuses)]) ]

/-- The status of a container that ended for the given reason. -/
def endedFor (reason : String) : Document :=
  .object
    [ ("name", .text "a"),
      ("state", .object [("terminated", .object [("reason", .text reason)])]) ]

theorem render_of_swapped_containers :
  let silent := Document.object [("name", .text "silent")]
  let busy := declaring "busy" [("cpu", .text "100m")] [("cpu", .text "1")]
  let error := endedFor "Error"
  let killed := endedFor "OOMKilled"
  ∃ row row',
    (Item.report (podOf [busy, silent] [error, killed]) smallSample).render newYear = .ok row
    ∧ (Item.report (podOf [silent, busy] [error, killed]) smallSample).render newYear = .ok row
    ∧ (Item.report (podOf [busy, silent] [killed, error]) smallSample).render newYear = .ok row'
    ∧ row.cell? "STATUS" = some "Error" ∧ row'.cell? "STATUS" = some "OOMKilled"
    ∧ row.cell? "CPU(R:L)" = some "0:0" ∧ row'.id = row.id
  := by
  intro silent busy error killed
  have hcontainers : Rearranged declarations (podOf [busy, silent] [error, killed])
      (podOf [silent, busy] [error, killed]) :=
    @Rearranged.inEntry _ [_] [_] "spec" _ _ (@Rearranged.inEntry _ [] [] "containers" _ _
      (.items (.inl rfl) (.swap _ _ [])))
  have hstatuses : Rearranged statuses (podOf [busy, silent] [error, killed])
      (podOf [busy, silent] [killed, error]) :=
    @Rearranged.inEntry _ [_, _] [] "status" _ _ (@Rearranged.inEntry _ [] [] "containerStatuses" _ _
      (.items (.inl rfl) (.swap _ _ [])))
  obtain ⟨row, hrow⟩ : ∃ row,
      (Item.report (podOf [busy, silent] [error, killed]) smallSample).render newYear = .ok row :=
    ⟨_, rfl⟩
  obtain ⟨hsame, hstatus⟩ := render_of_reordered_lists hrow
  obtain ⟨row', hrow', _, hid, _⟩ := hstatus _ hstatuses
  refine ⟨row, row', hrow, (hsame _ _ hcontainers (.refl _)).1, hrow', ?_, ?_, ?_, hid⟩
  · obtain rfl := Except.ok.inj hrow
    rfl
  · obtain rfl := Except.ok.inj hrow'
    rfl
  · obtain rfl := Except.ok.inj hrow
    rfl

end Item

end PodTable
