import Mathlib.Tactic.Common
import PodTable.Pod.Phase

/-!
# The rules for the status of a pod

`Pod.Shows p t` holds when the rules for statuses give the pod `p` the status `t`. The rules speak
of the first init container that has not succeeded and of the first container that has something
to report, while `Pod.status` scans the containers from the last to the first and keeps what it
found last. `Pod.shows_iff_status` says that the two agree.
-/

namespace PodTable

/-- The item `a` at position `i` is the first item of `xs` with the property `P`. -/
structure IsFirst {α : Type} (P : α → Prop) (xs : List α) (i : Nat) (a : α) : Prop where
  getElem? : xs[i]? = some a
  holds : P a
  before : ∀ j < i, ∀ b, xs[j]? = some b → ¬ P b

/-! ### The rules -/

/-- The text for a termination: the reason, or else the signal, or else the exit code. -/
inductive TerminationText (reason : String) (exitCode signal : Int) : String → Prop
  | reason (h : reason ≠ "") : TerminationText reason exitCode signal reason
  | signal (h : reason = "") (h' : signal ≠ 0) :
    TerminationText reason exitCode signal ("Signal:" ++ Text.numeral signal)
  | exitCode (h : reason = "") (h' : signal = 0) :
    TerminationText reason exitCode signal ("ExitCode:" ++ Text.numeral exitCode)

/-- The text for the state of the init container at position `i` of `count` that are declared. -/
inductive InitText (i count : Nat) : Option ContainerState → String → Prop
  | terminated {reason : String} {exitCode signal : Int} {t : String}
      (h : TerminationText reason exitCode signal t) :
    InitText i count (some (.terminated reason exitCode signal)) t
  | waiting {reason : String} (h : reason ≠ "") (h' : reason ≠ "PodInitializing") :
    InitText i count (some (.waiting reason)) reason
  | initializing {reason : String} (h : reason = "" ∨ reason = "PodInitializing") :
    InitText i count (some (.waiting reason)) (Text.numeral i ++ "/" ++ Text.numeral count)
  | running : InitText i count (some .running) (Text.numeral i ++ "/" ++ Text.numeral count)
  | unknown : InitText i count none (Text.numeral i ++ "/" ++ Text.numeral count)

/-- The text that the state of a regular container reports, if it waits for a reason or has
terminated. -/
inductive ReportText : Option ContainerState → String → Prop
  | waiting {reason : String} (h : reason ≠ "") : ReportText (some (.waiting reason)) reason
  | terminated {reason : String} {exitCode signal : Int} {t : String}
      (h : TerminationText reason exitCode signal t) :
    ReportText (some (.terminated reason exitCode signal)) t

namespace ContainerStatus

/-- The container has terminated with exit code zero. -/
def Succeeded (s : ContainerStatus) : Prop :=
  ∃ reason signal, s.state = some (.terminated reason 0 signal)

/-- The container waits for a reason or has terminated. -/
def Reports (s : ContainerStatus) : Prop := ∃ t, ReportText s.state t

/-- The container is ready and running. -/
def Live (s : ContainerStatus) : Prop := s.ready = true ∧ s.state = some .running

end ContainerStatus

namespace Pod

/-- The node of a pod that is being deleted does not answer. -/
def Lost (p : Pod) : Prop := p.deletionRequested = true ∧ p.reason = "NodeLost"

/-- The label of a pod: what the first of its containers with a report has to report, or else its
reason, or else its phase. -/
inductive Label (p : Pod) : String → Prop
  | report {i : Nat} {s : ContainerStatus} {t : String}
      (h : IsFirst ContainerStatus.Reports p.statuses i s) (ht : ReportText s.state t) :
    Label p t
  | reason (h : ∀ s ∈ p.statuses, ¬ s.Reports) (h' : p.reason ≠ "") : Label p p.reason
  | phase (h : ∀ s ∈ p.statuses, ¬ s.Reports) (h' : p.reason = "") : Label p p.phase

/-- The status that the rules give to a pod. -/
inductive Shows (p : Pod) : String → Prop
  | lost (h : p.Lost) : Shows p "Unknown"
  | initializing {i : Nat} {s : ContainerStatus} {t : String} (h : ¬ p.Lost)
      (hs : IsFirst (fun s => ¬ s.Succeeded) p.initStatuses i s)
      (ht : InitText i p.initContainers.length s.state t) :
    Shows p ("Init:" ++ t)
  | terminating (h : ¬ p.Lost) (hs : ∀ s ∈ p.initStatuses, s.Succeeded)
      (hd : p.deletionRequested = true) :
    Shows p "Terminating"
  | running (hs : ∀ s ∈ p.initStatuses, s.Succeeded) (hd : p.deletionRequested = false)
      (ht : p.Label "Completed") (hl : ∃ s ∈ p.statuses, s.Live) :
    Shows p "Running"
  | labelled {t : String} (hs : ∀ s ∈ p.initStatuses, s.Succeeded)
      (hd : p.deletionRequested = false) (ht : p.Label t)
      (hl : t ≠ "Completed" ∨ ∀ s ∈ p.statuses, ¬ s.Live) :
    Shows p t

end Pod

/-! ### First items -/

namespace IsFirst

variable {α β : Type} {P : α → Prop} {a x : α} {xs : List α} {i : Nat}

theorem cons_zero (h : P a) :
  IsFirst P (a :: xs) 0 a
  := ⟨rfl, h, fun _ hj => absurd hj (Nat.not_lt_zero _)⟩

theorem cons_succ (hx : ¬ P x) (h : IsFirst P xs i a) :
  IsFirst P (x :: xs) (i + 1) a
  := by
  constructor
  · apply h.getElem?
  · apply h.holds
  · intro j hj b hb
    cases j with
    | zero =>
      obtain rfl : x = b := by simpa using hb
      apply hx
    | succ j =>
      apply h.before j (by omega)
      simpa using hb

theorem of_cons_succ (h : IsFirst P (x :: xs) (i + 1) a) :
  ¬ P x ∧ IsFirst P xs i a
  := by
  constructor
  · apply h.before 0 (Nat.succ_pos i)
    rfl
  · constructor
    · apply h.getElem?
    · apply h.holds
    · intro j hj b hb
      apply h.before (j + 1) (by omega)
      simpa using hb

/-- A list that has an item with a property has a first one. -/
theorem exists_of_mem (h : ∃ a ∈ xs, P a) :
  ∃ i a, IsFirst P xs i a
  := by
  classical
  induction xs with
  | nil =>
    obtain ⟨a, ha, _⟩ := h
    cases ha
  | cons x xs ih =>
    by_cases hx : P x
    · use 0, x
      apply cons_zero hx
    · obtain ⟨a, ha, hP⟩ := h
      have ha' : a ∈ xs := by
        rcases List.mem_cons.mp ha with rfl | ha
        · contradiction
        · apply ha
      obtain ⟨i, b, hb⟩ := ih ⟨a, ha', hP⟩
      use i + 1, b
      apply cons_succ hx hb

/-- The first value that a function has on the items of a list is its value at the first item
where it has one. -/
theorem findSome? {f : α → Option β} {b : β} (h : IsFirst (fun a => ∃ b, f a = some b) xs i a)
    (hb : f a = some b) :
  xs.findSome? f = some b
  := by
  induction xs generalizing i with
  | nil => cases h.getElem?
  | cons x xs ih =>
    cases i with
    | zero =>
      obtain rfl : x = a := by simpa using h.getElem?
      simp [hb]
    | succ i =>
      obtain ⟨hx, h⟩ := h.of_cons_succ
      have hx : f x = none := by
        cases hfx : f x with
        | none => rfl
        | some c => exact absurd ⟨c, hfx⟩ hx
      simp [hx, ih h]

end IsFirst

/-! ### The texts -/

theorem terminationText_iff {reason : String} {exitCode signal : Int} {t : String} :
  TerminationText reason exitCode signal t
    ↔ ContainerState.terminationLabel reason exitCode signal = t
  := by
  constructor
  · intro h
    cases h <;> simp [ContainerState.terminationLabel, *]
  · rintro rfl
    unfold ContainerState.terminationLabel
    by_cases h : reason = ""
    · by_cases h' : signal = 0
      · simpa [h, h'] using TerminationText.exitCode h h'
      · have hsignal : TerminationText reason exitCode signal ("Signal:" ++ Text.numeral signal) :=
          .signal h h'
        simpa [h, h'] using hsignal
    · simpa [h] using TerminationText.reason h

/-- There is a text for every state of an init container. -/
theorem exists_initText (i count : Nat) (state : Option ContainerState) :
  ∃ t, InitText i count state t
  := by
  cases state with
  | none => exact ⟨_, .unknown⟩
  | some state =>
    cases state with
    | waiting reason =>
      by_cases hr : reason = "" ∨ reason = "PodInitializing"
      · exact ⟨_, .initializing hr⟩
      · exact ⟨_, .waiting (fun h => hr (.inl h)) (fun h => hr (.inr h))⟩
    | running => exact ⟨_, .running⟩
    | terminated reason exitCode signal => exact ⟨_, .terminated (terminationText_iff.mpr rfl)⟩

namespace ContainerStatus

theorem reportText_iff {s : ContainerStatus} {t : String} :
  ReportText s.state t ↔ s.report = some t
  := by
  unfold report
  constructor
  · intro h
    generalize s.state = state at h
    cases h with
    | waiting h => simp [ContainerState.report, h]
    | terminated h => simp [ContainerState.report, terminationText_iff.mp h]
  · intro h
    obtain ⟨state, hs, h⟩ := Option.bind_eq_some_iff.mp h
    rw [hs]
    cases state with
    | waiting reason =>
      by_cases hr : reason = ""
      · simp [ContainerState.report, hr] at h
      · obtain rfl : reason = t := by simpa [ContainerState.report, hr] using h
        apply ReportText.waiting hr
    | running => cases h
    | terminated reason exitCode signal =>
      apply ReportText.terminated
      apply terminationText_iff.mpr
      simpa [ContainerState.report] using h

theorem reports_eq :
  Reports = fun s => ∃ t, s.report = some t
  := by
  funext s
  simp only [Reports, reportText_iff]

theorem live_iff {s : ContainerStatus} :
  s.Live ↔ s.isLive = true
  := by
  simp [Live, isLive]

theorem initLabel_of_succeeded {s : ContainerStatus} (h : s.Succeeded) (i count : Int) :
  s.initLabel i count = none
  := by
  obtain ⟨reason, signal, h⟩ := h
  simp [initLabel, h]

/-- An init container that has not succeeded gives its text to the pod. -/
theorem initLabel_of_initText {s : ContainerStatus} (h : ¬ s.Succeeded) {i count : Nat} {t : String}
    (ht : InitText i count s.state t) :
  s.initLabel i count = some ("Init:" ++ t)
  := by
  unfold Succeeded at h
  unfold initLabel
  generalize s.state = state at h ht
  cases ht with
  | terminated ht =>
    rename_i reason exitCode signal
    have hc : exitCode ≠ 0 := by
      rintro rfl
      exact h ⟨reason, signal, rfl⟩
    simp [hc, terminationText_iff.mp ht]
  | waiting hr hr' => simp [Status.podInitializing, hr, hr']
  | initializing hr => simp [Status.podInitializing, hr, String.append_assoc]
  | running => simp [String.append_assoc]
  | unknown => simp [String.append_assoc]

/-! ### The scans -/

theorem firstInitLabel_of_succeeded {ss : List ContainerStatus} (h : ∀ s ∈ ss, s.Succeeded)
    (count n : Int) :
  firstInitLabel count n ss = none
  := by
  induction ss generalizing n with
  | nil => rfl
  | cons s ss ih =>
    have hs := initLabel_of_succeeded (h s List.mem_cons_self) n count
    rw [firstInitLabel, hs]
    apply ih
    intro s' hs'
    apply h s' (List.mem_cons_of_mem s hs')

/-- The scan of the init containers stops at the first one that has not succeeded. -/
theorem firstInitLabel_of_isFirst {ss : List ContainerStatus} {s : ContainerStatus}
    {i n count : Nat} {t : String} (h : IsFirst (fun s => ¬ s.Succeeded) ss i s)
    (ht : InitText (n + i) count s.state t) :
  firstInitLabel count n ss = some ("Init:" ++ t)
  := by
  induction ss generalizing i n with
  | nil => cases h.getElem?
  | cons s' ss ih =>
    cases i with
    | zero =>
      obtain rfl : s' = s := by simpa using h.getElem?
      have hs := initLabel_of_initText h.holds ht
      rw [firstInitLabel]
      simp only [Nat.add_zero] at hs
      rw [hs]
    | succ i =>
      obtain ⟨hs', h⟩ := h.of_cons_succ
      have hs := initLabel_of_succeeded (not_not.mp hs') n count
      rw [firstInitLabel, hs]
      apply ih (n := n + 1) h
      have hn : n + 1 + i = n + (i + 1) := by omega
      rw [hn]
      apply ht

/-- The scan from the last container to the first keeps the first report. -/
theorem scan_eq (ss : List ContainerStatus) (label : String) :
  scan ss label = ((ss.findSome? report).getD label, ss.any isLive)
  := by
  unfold scan
  rw [List.foldl_reverse]
  induction ss with
  | nil => rfl
  | cons s ss ih =>
    rw [List.foldr_cons, ih, scanStep]
    cases hr : s.report with
    | some t =>
      have hl : s.isLive = false := by
        obtain ⟨state, hs, h⟩ := Option.bind_eq_some_iff.mp hr
        cases state with
        | running => cases h
        | _ => simp [isLive, hs]
      simp [hr, hl]
    | none => cases hl : s.isLive <;> simp [hr, hl]

end ContainerStatus

namespace Pod

variable {p : Pod} {t : String}

/-- The label of a pod is what the scan of its containers finds. -/
theorem label_iff :
  p.Label t ↔ (p.statuses.findSome? ContainerStatus.report).getD p.ownLabel = t
  := by
  have hown : p.ownLabel = if p.reason = "" then p.phase else p.reason := by simp [ownLabel]
  have hnone (h : ∀ s ∈ p.statuses, ¬ s.Reports) :
      p.statuses.findSome? ContainerStatus.report = none := by
    rw [List.findSome?_eq_none_iff]
    intro s hs
    rw [Option.eq_none_iff_forall_ne_some]
    intro t ht
    exact h s hs ⟨t, ContainerStatus.reportText_iff.mpr ht⟩
  constructor
  · rintro (⟨h, ht⟩ | ⟨h, h'⟩ | ⟨h, h'⟩)
    · rw [ContainerStatus.reports_eq] at h
      rw [h.findSome? (ContainerStatus.reportText_iff.mp ht), Option.getD_some]
    · rw [hnone h, Option.getD_none, hown, if_neg h']
    · rw [hnone h, Option.getD_none, hown, if_pos h']
  · rintro rfl
    by_cases h : ∃ s ∈ p.statuses, s.Reports
    · obtain ⟨i, s, hs⟩ := IsFirst.exists_of_mem h
      obtain ⟨t, ht⟩ := hs.holds
      have hs' := hs
      rw [ContainerStatus.reports_eq] at hs'
      rw [hs'.findSome? (ContainerStatus.reportText_iff.mp ht), Option.getD_some]
      apply Label.report hs ht
    · push Not at h
      rw [hnone h, Option.getD_none, hown]
      by_cases h' : p.reason = ""
      · rw [if_pos h']
        apply Label.phase h h'
      · rw [if_neg h']
        apply Label.reason h h'

theorem lost_iff :
  p.Lost ↔ (p.deletionRequested && p.reason == Status.nodeLost) = true
  := by
  simp [Lost, Status.nodeLost]

theorem status_of_lost (h : p.Lost) :
  p.status = "Unknown"
  := by
  rw [status, if_pos (lost_iff.mp h)]
  rfl

theorem status_of_isFirst {i : Nat} {s : ContainerStatus} (h : ¬ p.Lost)
    (hs : IsFirst (fun s => ¬ s.Succeeded) p.initStatuses i s)
    (ht : InitText i p.initContainers.length s.state t) :
  p.status = "Init:" ++ t
  := by
  have hi : p.initLabel = some ("Init:" ++ t) := by
    apply ContainerStatus.firstInitLabel_of_isFirst (n := 0) hs
    simpa using ht
  rw [status, if_neg (fun h' => h (lost_iff.mpr h')), hi]

/-- Once all init containers have succeeded, the status is decided by deletion and by the scan of
the containers. -/
theorem status_of_succeeded (h : ¬ p.Lost) (hs : ∀ s ∈ p.initStatuses, s.Succeeded) {label : String}
    (hl : p.Label label) :
  p.status = if p.deletionRequested then "Terminating"
    else if label = "Completed" ∧ p.statuses.any ContainerStatus.isLive then "Running" else label
  := by
  have hi : p.initLabel = none := ContainerStatus.firstInitLabel_of_succeeded hs _ _
  rw [status, if_neg (fun h' => h (lost_iff.mpr h')), hi]
  simp only [ContainerStatus.scan_eq, label_iff.mp hl]
  simp [Status.completed, Status.running, Status.terminating, and_comm]

theorem any_isLive_iff :
  p.statuses.any ContainerStatus.isLive = true ↔ ∃ s ∈ p.statuses, s.Live
  := by
  simp [ContainerStatus.live_iff]

/-- The rules give a pod exactly the status that is shown for it. -/
theorem shows_iff_status (p : Pod) (t : String) :
  p.Shows t ↔ p.status = t
  := by
  constructor
  · rintro (h | ⟨h, hs, ht⟩ | ⟨h, hs, hd⟩ | ⟨hs, hd, ht, hl⟩ | ⟨hs, hd, ht, hl⟩)
    · apply status_of_lost h
    · apply status_of_isFirst h hs ht
    · obtain ⟨label, hlabel⟩ : ∃ label, p.Label label := ⟨_, label_iff.mpr rfl⟩
      rw [status_of_succeeded h hs hlabel, if_pos hd]
    · have h : ¬ p.Lost := fun h => by simp [h.1] at hd
      rw [status_of_succeeded h hs ht, if_neg (by simp [hd]), if_pos]
      apply And.intro rfl (any_isLive_iff.mpr hl)
    · have h : ¬ p.Lost := fun h => by simp [h.1] at hd
      rw [status_of_succeeded h hs ht, if_neg (by simp [hd]), if_neg]
      rintro ⟨hc, hlive⟩
      obtain ⟨s, hmem, hlive⟩ := any_isLive_iff.mp hlive
      rcases hl with hl | hl
      · apply hl hc
      · apply hl s hmem hlive
  · rintro rfl
    by_cases h : p.Lost
    · rw [status_of_lost h]
      apply Shows.lost h
    by_cases hs : ∃ s ∈ p.initStatuses, ¬ s.Succeeded
    · obtain ⟨i, s, hs⟩ := IsFirst.exists_of_mem hs
      obtain ⟨t, ht⟩ := exists_initText i p.initContainers.length s.state
      rw [status_of_isFirst h hs ht]
      apply Shows.initializing h hs ht
    push Not at hs
    obtain ⟨label, hlabel⟩ : ∃ label, p.Label label := ⟨_, label_iff.mpr rfl⟩
    rw [status_of_succeeded h hs hlabel]
    cases hd : p.deletionRequested with
    | true => apply Shows.terminating h hs hd
    | false =>
      rw [if_neg (by simp)]
      by_cases hl : label = "Completed" ∧ p.statuses.any ContainerStatus.isLive
      · rw [if_pos hl]
        obtain ⟨rfl, hl⟩ := hl
        apply Shows.running hs hd hlabel (any_isLive_iff.mp hl)
      · rw [if_neg hl]
        apply Shows.labelled hs hd hlabel
        by_cases hc : label = "Completed"
        · right
          intro s hmem hlive
          apply hl ⟨hc, any_isLive_iff.mpr ⟨s, hmem, hlive⟩⟩
        · left
          apply hc

end Pod

end PodTable
