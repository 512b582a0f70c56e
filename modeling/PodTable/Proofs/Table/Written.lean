import Mathlib.Tactic.Linarith
import PodTable.Proofs.Pod.Totals
import PodTable.Proofs.Quantity.Amount
import PodTable.Table.Written

/-!
# Usage that can be written

An amount that is read fits a word. So the totals of a pod and those of a sample take at most one
word for each container, and what a row shows of them is short enough to be written, unless there
are more containers than any document has: `Item.isWritable_of_sample`.
-/

namespace PodTable

namespace Amount

/-- Both parts of an amount fit into so many words, whatever their signs. -/
def FitsWords (n : ℕ) (a : Amount) : Prop :=
  a.cpu.natAbs ≤ n * 2 ^ 63 ∧ a.memory.natAbs ≤ n * 2 ^ 63

variable {m n : ℕ} {a b : Amount}

theorem fitsWords_zero (n : ℕ) :
  ({} : Amount).FitsWords n
  := ⟨Nat.zero_le _, Nat.zero_le _⟩

theorem FitsWords.mono (h : a.FitsWords m) (hmn : m ≤ n) :
  a.FitsWords n
  := ⟨h.1.trans (Nat.mul_le_mul_right _ hmn), h.2.trans (Nat.mul_le_mul_right _ hmn)⟩

theorem FitsWords.add (ha : a.FitsWords m) (hb : b.FitsWords n) :
  (a + b).FitsWords (m + n)
  := by
  obtain ⟨hacpu, hamemory⟩ := ha
  obtain ⟨hbcpu, hbmemory⟩ := hb
  constructor
  · rw [cpu_add]
    omega
  · rw [memory_add]
    omega

/-- A sum of amounts that fit a word takes one more word for each of them. -/
theorem fitsWords_foldl {as : List Amount} (h : ∀ a ∈ as, a.FitsWords 1) (hb : b.FitsWords m) :
  (as.foldl (· + ·) b).FitsWords (m + as.length)
  := by
  induction as generalizing b m with
  | nil => exact hb
  | cons a as ih =>
    rw [List.forall_mem_cons] at h
    have hfold := ih h.2 (hb.add h.1)
    rwa [List.length_cons, Nat.add_comm as.length, ← Nat.add_assoc]

theorem fitsWords_allOrNothing {xs : List (Option Amount)}
    (h : ∀ a, some a ∈ xs → a.FitsWords 1) :
  (allOrNothing xs).FitsWords xs.length
  := by
  induction xs with
  | nil => exact fitsWords_zero _
  | cons x xs ih =>
    by_cases hnone : none ∈ x :: xs
    · rw [allOrNothing, if_pos hnone]
      exact fitsWords_zero _
    · cases x with
      | none => simp at hnone
      | some a =>
        have hxs : none ∉ xs := fun h => hnone (List.mem_cons_of_mem _ h)
        rw [allOrNothing_some_cons a hxs, List.length_cons, Nat.add_comm]
        exact (h a List.mem_cons_self).add (ih (fun a ha => h a (List.mem_cons_of_mem _ ha)))

end Amount

namespace Source

open Document Outcome Quantity

/-! ### Amounts that are read -/

/-- Whatever is measured fits a word. -/
def MeasuresWords (measure : Document → Except Refusal Int) : Prop :=
  ∀ d i, measure d = .ok i → InWord i

theorem measuresWords_millicores :
  MeasuresWords millicores
  := by
  intro d i h
  obtain ⟨v, _, hv⟩ := bind_eq_ok_iff.mp h
  exact (ceil_of_units hv).2

theorem measuresWords_bytes :
  MeasuresWords bytes
  := by
  intro d i h
  obtain ⟨v, _, hv⟩ := bind_eq_ok_iff.mp h
  exact (ceil_of_units hv).2

theorem natAbs_amountAt_le {measure : Document → Except Refusal Int}
    (hmeasure : MeasuresWords measure) (es : Entries) (key : String) :
  (amountAt measure es key).natAbs ≤ 1 * 2 ^ 63
  := by
  unfold amountAt
  cases lookup? es key with
  | none => simp
  | some d =>
    cases hd : measure d with
    | error _ => simp [hd, Except.toOption]
    | ok i =>
      obtain ⟨hlow, hhigh⟩ := hmeasure d i hd
      simp only [hd, Except.toOption, Option.getD_some]
      omega

theorem fitsWords_amountAt (es : Entries) :
  (⟨amountAt millicores es "cpu", amountAt bytes es "memory"⟩ : Amount).FitsWords 1
  := ⟨natAbs_amountAt_le measuresWords_millicores es "cpu",
    natAbs_amountAt_le measuresWords_bytes es "memory"⟩

theorem fitsWords_amountsAt? {name : String} {es : Entries} {a : Amount}
    (h : amountsAt? name es = some a) :
  a.FitsWords 1
  := by
  simp only [amountsAt?, Option.ite_none_left_eq_some] at h
  obtain ⟨_, h⟩ := h
  cases h
  apply fitsWords_amountAt

theorem fitsWords_requests? {es : Entries} {a : Amount} (h : requests? es = some a) :
  a.FitsWords 1
  := by
  rw [requests?, Option.or_eq_some_iff] at h
  obtain h | ⟨_, h⟩ := h
  · exact fitsWords_amountsAt? h
  · exact fitsWords_amountsAt? h

theorem fitsWords_groupTotal {amount? : Container → Option Amount}
    {reported? : Entries → Option Amount}
    (heq : ∀ owner es c, container owner es = .ok c → amount? c = reported? es)
    (hreported : ∀ es a, reported? es = some a → a.FitsWords 1) {d : Document}
    {cs : List Container} (h : ReadTo container d cs) :
  (Container.groupTotal amount? cs).FitsWords cs.length
  := by
  have hmem (a : Amount) (ha : some a ∈ cs.map amount?) : a.FitsWords 1 := by
    obtain ⟨c, hc, hca⟩ := List.mem_map.mp ha
    obtain ⟨owner, es, hread⟩ := h.exists_of_mem hc
    exact hreported es a ((heq owner es c hread).symm.trans hca)
  rw [Container.groupTotal_eq]
  simpa using Amount.fitsWords_allOrNothing hmem

/-- The totals of a pod that is read take a word for each of its containers. -/
theorem fitsWords_totals [EpochRule] {d : Document} {p : Pod} (h : pod d = .ok p) :
  p.totals.requests.FitsWords (p.containers.length + p.initContainers.length)
  ∧ p.totals.limits.FitsWords (p.containers.length + p.initContainers.length)
  := by
  obtain ⟨hcontainers, hinit, _, _⟩ := holdsLists_of_pod h
  have hrequested (owner es c) (hc : container owner es = .ok c) : c.requested? = requests? es :=
    (container_eq_ok hc).1
  have hlimited (owner es c) (hc : container owner es = .ok c) : c.limited? = limits? es :=
    (container_eq_ok hc).2.1
  constructor
  · exact (fitsWords_groupTotal hrequested (fun _ _ => fitsWords_requests?) hcontainers).add
      (fitsWords_groupTotal hrequested (fun _ _ => fitsWords_requests?) hinit)
  · exact (fitsWords_groupTotal hlimited (fun _ _ => fitsWords_amountsAt?) hcontainers).add
      (fitsWords_groupTotal hlimited (fun _ _ => fitsWords_amountsAt?) hinit)

theorem fitsWords_containerUsage {owner : Owner} {es : Entries} {c : ContainerUsage}
    (h : containerUsage owner es = .ok c) :
  (⟨c.cpu, c.memory⟩ : Amount).FitsWords 1
  := by
  obtain ⟨used, _, h⟩ := bind_eq_ok_iff.mp h
  obtain ⟨⟨cpu, memory⟩, hamounts, h⟩ := bind_eq_ok_iff.mp h
  obtain ⟨name, _, rfl⟩ := Checked.map_eq_sound_iff.mp (settle_eq_ok_iff.mp h)
  obtain ⟨hcpu, hmemory⟩ := amounts_eq_ok hamounts
  rw [(amountOf?_eq_ok hcpu).1, (amountOf?_eq_ok hmemory).1]
  apply fitsWords_amountAt

/-- The containers of a sample that is read are those of the reported list. -/
theorem readTo_of_usage {d : Document} {u : PodUsage} (h : usage d = .ok (some u)) :
  ReadTo containerUsage (valueAt d.entries "containers") u.containers
  := by
  cases d with
  | null => cases h
  | object es =>
    obtain ⟨metadata, _, h⟩ := bind_eq_ok_iff.mp h
    obtain ⟨u, h, ⟨⟩⟩ := map_eq_ok_iff.mp (mapError_eq_ok_iff.mp h)
    obtain ⟨containers, hcontainers, h⟩ := bind_eq_ok_iff.mp h
    simp only [settle_eq_ok_iff, Checked.seq_eq_sound_iff, Checked.map_eq_sound_iff] at h
    obtain ⟨_, _, ⟨_, _, rfl⟩, _, rfl⟩ := h
    exact readList_eq_ok hcontainers
  | _ => cases fail_ne_ok h

/-- The total of a sample that is read takes a word for each of its containers. -/
theorem fitsWords_total {d : Document} {u : PodUsage} (h : usage d = .ok (some u)) :
  u.total.FitsWords u.containers.length
  := by
  have hmem : ∀ a ∈ u.containers.map (fun c => (⟨c.cpu, c.memory⟩ : Amount)), a.FitsWords 1 := by
    intro a ha
    obtain ⟨c, hc, rfl⟩ := List.mem_map.mp ha
    obtain ⟨owner, es, hread⟩ := (readTo_of_usage h).exists_of_mem hc
    exact fitsWords_containerUsage hread
  simpa [PodUsage.total, Amount.sum] using Amount.fitsWords_foldl hmem (Amount.fitsWords_zero 0)

end Source

/-! ### Numbers in rows -/

namespace UsageCells

theorem natAbs_mebibytes_le (bytes : ℤ) :
  (mebibytes bytes).natAbs ≤ bytes.natAbs
  := Int.natAbs_tdiv_le_natAbs _ _

theorem natAbs_percentage_le (value total : ℤ) :
  (percentage value total).natAbs ≤ value.natAbs * 100
  := by
  unfold percentage
  split_ifs
  · exact Nat.zero_le _
  · apply (Int.natAbs_fdiv_le_natAbs _ _).trans
    rw [Int.natAbs_mul]
    rfl

/-- A hundred times so many words can be written, unless there are very many of them. -/
theorem isWritable_of_le {n : ℕ} (hn : n < 10 ^ 4000) {i : ℤ} (hi : i.natAbs ≤ n * 2 ^ 63 * 100) :
  Literal.isWritable i = true
  := by
  have hword : 2 ^ 63 * 100 ≤ 10 ^ 21 := by norm_num
  have hlt : i.natAbs < 10 ^ Literal.digitLimit := by
    calc i.natAbs ≤ n * (2 ^ 63 * 100) := by rwa [← Nat.mul_assoc]
      _ ≤ n * 10 ^ 21 := Nat.mul_le_mul_left _ hword
      _ < 10 ^ 4000 * 10 ^ 21 := Nat.mul_lt_mul_of_pos_right hn (by norm_num)
      _ ≤ 10 ^ Literal.digitLimit := by
        rw [← pow_add]
        exact pow_le_pow_right₀ (by norm_num) (by decide)
  exact decide_eq_true hlt

/-- The numbers in the cells for the usage can be written if all amounts fit into so many words. -/
theorem isWritable_of_mem_numbers {p : Pod} {u : PodUsage} {n : ℕ} (hn : n < 10 ^ 4000)
    (hrequests : p.totals.requests.FitsWords n) (hlimits : p.totals.limits.FitsWords n)
    (hused : u.total.FitsWords n) :
  ∀ i ∈ numbers p (some u), Literal.isWritable i = true
  := by
  have hamount {i : ℤ} (hi : i.natAbs ≤ n * 2 ^ 63) : Literal.isWritable i = true :=
    isWritable_of_le hn (hi.trans (Nat.le_mul_of_pos_right _ (by norm_num)))
  have hmemory {i : ℤ} (hi : i.natAbs ≤ n * 2 ^ 63) : Literal.isWritable (mebibytes i) = true :=
    hamount ((natAbs_mebibytes_le i).trans hi)
  have hpercentage {i : ℤ} (total : ℤ) (hi : i.natAbs ≤ n * 2 ^ 63) :
      Literal.isWritable (percentage i total) = true :=
    isWritable_of_le hn ((natAbs_percentage_le i total).trans (Nat.mul_le_mul_right _ hi))
  have hmebibytes := (natAbs_mebibytes_le u.total.memory).trans hused.2
  simp only [numbers, List.forall_mem_cons]
  exact ⟨hamount hused.1, hmemory hused.2, hpercentage _ hused.1, hpercentage _ hmebibytes,
    hpercentage _ hused.1, hpercentage _ hmebibytes, hamount hrequests.1, hamount hlimits.1,
    hmemory hrequests.2, hmemory hlimits.2, by simp⟩

end UsageCells

namespace Item

open Document Source

/-- The number of containers that a reported pod declares and a reported sample holds. -/
def containerCount (pod usage : Document) : ℕ :=
  (valueAt (sectionAt pod "spec") "containers").items.length
    + (valueAt (sectionAt pod "spec") "initContainers").items.length
    + (valueAt usage.entries "containers").items.length

variable {pod usage : Document} {p : Pod} {u : Option PodUsage}

/-- A row that can be written without a sample can be written with every sample that can be read,
unless there are more containers than any document has. -/
theorem isWritable_of_sample [EpochRule] (hpod : Source.pod pod = .ok p)
    (husage : Source.usage usage = .ok u) (hn : containerCount pod usage < 10 ^ 4000) {age : String}
    (h : (⟨p, none, age⟩ : View).isWritable = true) :
  (⟨p, u, age⟩ : View).isWritable = true
  := by
  cases u with
  | none => exact h
  | some u =>
    obtain ⟨hcontainers, hinit, _, _⟩ := holdsLists_of_pod hpod
    obtain ⟨hrequests, hlimits⟩ := fitsWords_totals hpod
    have hcount : containerCount pod usage
        = p.containers.length + p.initContainers.length + u.containers.length := by
      rw [containerCount, hcontainers.length_eq, hinit.length_eq, (readTo_of_usage husage).length_eq]
    rw [hcount] at hn
    have hnumbers := UsageCells.isWritable_of_mem_numbers hn
      (hrequests.mono (Nat.le_add_right _ _)) (hlimits.mono (Nat.le_add_right _ _))
      ((fitsWords_total husage).mono (Nat.le_add_left _ _))
    simp only [View.isWritable, View.numbers, List.all_cons, Bool.and_eq_true] at h ⊢
    obtain ⟨hready, htotal, hrestarts, _⟩ := h
    exact ⟨hready, htotal, hrestarts, List.all_eq_true.mpr hnumbers⟩

end Item

end PodTable
