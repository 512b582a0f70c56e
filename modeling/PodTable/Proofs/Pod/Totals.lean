import Mathlib.Algebra.BigOperators.Group.List.Basic
import Mathlib.Tactic.Ring
import PodTable.Pod.Resources
import PodTable.Proofs.Pod.Sections

/-!
# Totals of a reported pod

A reported container declares an amount as its requests, or as its limits, when it has a key there,
whatever the key is. The total of a group of containers is the sum of their amounts if each of them
declares one, and zero otherwise. The requests and the limits of a pod are the totals of its two
groups, as `Source.totals_of_pod` says of the reported document.
-/

namespace PodTable

/-- The sum of amounts, or zero if one of them is missing. -/
def allOrNothing (xs : List (Option Amount)) : Amount :=
  if none ∈ xs then {}
  else ⟨(xs.filterMap (·.map Amount.cpu)).sum, (xs.filterMap (·.map Amount.memory)).sum⟩

namespace Amount

variable (a b : Amount)

@[simp]
theorem cpu_add :
  (a + b).cpu = a.cpu + b.cpu
  := rfl

@[simp]
theorem memory_add :
  (a + b).memory = a.memory + b.memory
  := rfl

variable {a b}

theorem ext (hcpu : a.cpu = b.cpu) (hmemory : a.memory = b.memory) :
  a = b
  := by
  cases a
  cases b
  cases hcpu
  cases hmemory
  rfl

@[simp]
theorem zero_add :
  ({} : Amount) + a = a
  := by
  apply ext <;> simp

theorem add_assoc (c : Amount) :
  a + b + c = a + (b + c)
  := by
  apply ext <;> simp [Int.add_assoc]

end Amount

theorem allOrNothing_some_cons (a : Amount) {xs : List (Option Amount)} (h : none ∉ xs) :
  allOrNothing (some a :: xs) = a + allOrNothing xs
  := by
  apply Amount.ext <;> simp [allOrNothing, h]

theorem allOrNothing_perm {xs ys : List (Option Amount)} (h : xs.Perm ys) :
  allOrNothing xs = allOrNothing ys
  := by
  unfold allOrNothing
  simp only [h.mem_iff, (h.filterMap _).sum_eq]

namespace Accumulator

/-- What is left to add comes on top of the total so far, unless an amount is missing. -/
theorem total_addUntilStopped (acc : Accumulator) (h : acc.stopped = false)
    (xs : List (Option Amount)) :
  (acc.addUntilStopped xs).total = if none ∈ xs then {} else acc.total + allOrNothing xs
  := by
  induction xs generalizing acc with
  | nil => apply Amount.ext <;> simp [addUntilStopped, allOrNothing]
  | cons x xs ih =>
    cases x with
    | none => simp [addUntilStopped, add, h]
    | some a =>
      have hadd : acc.add (some a) = (true, { acc with total := acc.total + a }) := by
        simp [add, h]
      simp only [addUntilStopped, hadd]
      rw [ih ⟨acc.total + a, acc.stopped⟩ h]
      by_cases hxs : none ∈ xs
      · simp [hxs]
      · simp [hxs, allOrNothing_some_cons a hxs, Amount.add_assoc]

end Accumulator

namespace Container

/-- The total of a group is that of its amounts. -/
theorem groupTotal_eq (amount? : Container → Option Amount) (cs : List Container) :
  groupTotal amount? cs = allOrNothing (cs.map amount?)
  := by
  rw [groupTotal, Accumulator.total_addUntilStopped _ rfl, Amount.zero_add]
  split
  · rename_i h
    rw [allOrNothing, if_pos h]
  · rfl

/-- The total of a group does not depend on the order of the containers. -/
theorem groupTotal_perm (amount? : Container → Option Amount) {cs ds : List Container}
    (h : cs.Perm ds) :
  groupTotal amount? cs = groupTotal amount? ds
  := by
  rw [groupTotal_eq, groupTotal_eq, allOrNothing_perm (h.map amount?)]

theorem groupTotal_of_none_mem {amount? : Container → Option Amount} {cs : List Container}
    (h : none ∈ cs.map amount?) :
  groupTotal amount? cs = {}
  := by
  rw [groupTotal_eq, allOrNothing, if_pos h]

theorem requested?_eq_or (c : Container) :
  c.requested? = c.requests.amount?.or c.limited?
  := by
  unfold requested? limited?
  cases c.requests.amount? <;> rfl

/-- A container that requests nothing is limited to nothing. -/
theorem none_mem_limited {cs : List Container} (h : none ∈ cs.map requested?) :
  none ∈ cs.map limited?
  := by
  obtain ⟨c, hc, hnone⟩ := List.mem_map.mp h
  rw [requested?_eq_or, Option.or_eq_none_iff] at hnone
  exact List.mem_map.mpr ⟨c, hc, hnone.2⟩

end Container

namespace Source

open Document Outcome

/-! ### Reported amounts -/

/-- The amount under a key, zero if the key is missing. An amount that is not measured counts as
zero too, but no pod has one. -/
def amountAt (measure : Document → Except Quantity.Refusal Int) (es : Entries) (key : String) :
    Int :=
  match lookup? es key with
  | none => 0
  | some d => (measure d).toOption.getD 0

/-- The keys and values that a container declares under a name of its resources. -/
def declaredAt (name : String) (es : Entries) : Entries :=
  (valueAt (valueAt es "resources").entries name).entries

/-- The amount that a container declares under a name of its resources, if it has a key there. -/
def amountsAt? (name : String) (es : Entries) : Option Amount :=
  let declared := declaredAt name es
  if declared.isEmpty then none
  else some ⟨amountAt Quantity.millicores declared "cpu", amountAt Quantity.bytes declared "memory"⟩

/-- The limits of a reported container. -/
def limits? (es : Entries) : Option Amount := amountsAt? "limits" es

/-- The requests of a reported container, or else its limits. -/
def requests? (es : Entries) : Option Amount := (amountsAt? "requests" es).or (limits? es)

/-- What a function has for the containers under a key, in a reported pod. -/
def overContainers {β : Type} (f : Entries → β) (d : Document) (key : String) : List β :=
  (valueAt (sectionAt d "spec") key).items.map (fun item => f item.entries)

/-- The total of the containers and the init containers of a reported pod. -/
def reportedTotal (amount? : Entries → Option Amount) (d : Document) : Amount :=
  allOrNothing (overContainers amount? d "containers")
    + allOrNothing (overContainers amount? d "initContainers")

/-- The amounts of processing and of memory in an object are measured. -/
def IsMeasured (es : Entries) : Prop :=
  (∀ d, lookup? es "cpu" = some d → ∃ i, Quantity.millicores d = .ok i)
  ∧ ∀ d, lookup? es "memory" = some d → ∃ i, Quantity.bytes d = .ok i

variable {owner : Owner} {es : Entries} {key : String}

/-! ### Amounts that are read -/

theorem amountOf?_eq_ok {measure : Document → Except Quantity.Refusal Int} {x : Option Int}
    (h : amountOf? measure es key = .ok x) :
  x.getD 0 = amountAt measure es key ∧ x.isNone = (lookup? es key).isNone
  ∧ ∀ d, lookup? es key = some d → ∃ i, measure d = .ok i
  := by
  unfold amountOf? at h
  unfold amountAt
  cases hkey : lookup? es key with
  | none =>
    rw [hkey] at h
    obtain rfl := Except.ok.inj h
    simp
  | some d =>
    rw [hkey] at h
    obtain ⟨i, hi, rfl⟩ := map_eq_ok_iff.mp (mapError_eq_ok_iff.mp h)
    simp [hi, Except.toOption]

theorem amounts_eq_ok {cpu memory : Option Int} (h : amounts owner es = .ok (cpu, memory)) :
  amountOf? Quantity.millicores es "cpu" = .ok cpu ∧ amountOf? Quantity.bytes es "memory" = .ok memory
  := by
  obtain ⟨cpu, hcpu, hrest⟩ := bind_eq_ok_iff.mp (mapError_eq_ok_iff.mp h)
  obtain ⟨memory, hmemory, hpair⟩ := bind_eq_ok_iff.mp hrest
  cases hpair
  exact ⟨hcpu, hmemory⟩

/-- An object has one of the two amounts or another key, unless it is empty. -/
theorem isEmpty_iff_keys (es : Entries) :
  ((lookup? es "cpu").isNone && (lookup? es "memory").isNone && (otherKeys es).isEmpty) = es.isEmpty
  := by
  cases es with
  | nil => simp [otherKeys, lookup?]
  | cons e es =>
    obtain ⟨k, d⟩ := e
    rw [List.isEmpty_cons]
    by_cases hcpu : k = "cpu"
    · simp [hcpu, lookup?]
    by_cases hmemory : k = "memory"
    · simp [hmemory, lookup?]
    have hlength : (otherKeys ((k, d) :: es)).length ≠ 0 := by
      simp [otherKeys, hcpu, hmemory]
    have hother : (otherKeys ((k, d) :: es)).isEmpty = false := by
      rwa [List.isEmpty_eq_false_iff, ← List.length_pos_iff_ne_nil, Nat.pos_iff_ne_zero]
    rw [hother, Bool.and_false]

/-- Requests or limits that are read hold the amounts of the object under the key, if it has any
keys. -/
theorem resources_eq_ok {r : Resources} (h : resources owner (lookup? es key) = .ok r) :
  let declared := (valueAt es key).entries
  r.amount? = (if declared.isEmpty then none
    else some ⟨amountAt Quantity.millicores declared "cpu",
      amountAt Quantity.bytes declared "memory"⟩)
  ∧ IsMeasured declared
  := by
  unfold valueAt
  cases hkey : lookup? es key with
  | none =>
    rw [hkey] at h
    obtain rfl := Except.ok.inj h
    exact ⟨rfl, by rintro _ ⟨⟩, by rintro _ ⟨⟩⟩
  | some d =>
    rw [hkey] at h
    cases d with
    | null =>
      obtain rfl := Except.ok.inj h
      exact ⟨rfl, by rintro _ ⟨⟩, by rintro _ ⟨⟩⟩
    | object fs =>
      obtain ⟨⟨cpu, memory⟩, hamounts, h⟩ := bind_eq_ok_iff.mp h
      obtain rfl := Except.ok.inj h
      obtain ⟨hcpu, hmemory⟩ := amounts_eq_ok hamounts
      obtain ⟨hcpu, hcpuNone, hcpuMeasured⟩ := amountOf?_eq_ok hcpu
      obtain ⟨hmemory, hmemoryNone, hmemoryMeasured⟩ := amountOf?_eq_ok hmemory
      have hempty : (⟨cpu, memory, otherKeys fs⟩ : Resources).isEmpty = fs.isEmpty := by
        rw [← isEmpty_iff_keys, ← hcpuNone, ← hmemoryNone]
        rfl
      refine ⟨?_, hcpuMeasured, hmemoryMeasured⟩
      rw [Resources.amount?, hempty, Resources.amount, hcpu, hmemory]
      rfl
    | _ => cases fail_ne_ok h

/-- A container that is read requests and is limited to what it declares. -/
theorem container_eq_ok {c : Container} (h : container owner es = .ok c) :
  c.requested? = requests? es ∧ c.limited? = limits? es
  ∧ IsMeasured (declaredAt "requests" es) ∧ IsMeasured (declaredAt "limits" es)
  := by
  obtain ⟨declared, hdeclared, h⟩ := bind_eq_ok_iff.mp h
  obtain rfl := sectionOf_eq_ok hdeclared
  obtain ⟨requests, hrequests, h⟩ := bind_eq_ok_iff.mp h
  obtain ⟨limits, hlimits, h⟩ := bind_eq_ok_iff.mp h
  obtain ⟨name, _, rfl⟩ := Checked.map_eq_sound_iff.mp (settle_eq_ok_iff.mp h)
  obtain ⟨hrequests, hmeasured⟩ := resources_eq_ok hrequests
  obtain ⟨hlimits, hmeasured'⟩ := resources_eq_ok hlimits
  refine ⟨?_, hlimits, hmeasured, hmeasured'⟩
  rw [Container.requested?_eq_or]
  exact congrArg₂ Option.or hrequests hlimits

/-- The requests and the limits of a pod that is read are the totals of what its containers declare.
The amounts declared are measured. A group that has no requests for want of a declaration has no
limits either. -/
theorem totals_of_pod [EpochRule] {d : Document} {p : Pod} (h : Source.pod d = .ok p) :
  p.requests = reportedTotal requests? d ∧ p.limits = reportedTotal limits? d
  ∧ (∀ key ∈ ["containers", "initContainers"], ∀ name ∈ ["requests", "limits"],
    ∀ es ∈ overContainers (declaredAt name) d key, IsMeasured es)
  ∧ ∀ cs ∈ [p.containers, p.initContainers], none ∈ cs.map Container.requested? →
    Container.groupTotal Container.requested? cs = {} ∧ Container.groupTotal Container.limited? cs = {}
  := by
  obtain ⟨hcontainers, hinit, _, _⟩ := holdsLists_of_pod h
  have hrequested (owner es c) (hc : container owner es = .ok c) : c.requested? = requests? es :=
    (container_eq_ok hc).1
  have hlimited (owner es c) (hc : container owner es = .ok c) : c.limited? = limits? es :=
    (container_eq_ok hc).2.1
  refine ⟨?_, ?_, ?_, ?_⟩
  · rw [Pod.requests, Pod.total, Container.groupTotal_eq, Container.groupTotal_eq,
      hcontainers.map_eq_map hrequested, hinit.map_eq_map hrequested]
    rfl
  · rw [Pod.limits, Pod.total, Container.groupTotal_eq, Container.groupTotal_eq,
      hcontainers.map_eq_map hlimited, hinit.map_eq_map hlimited]
    rfl
  · intro key hkey name hname es hes
    obtain ⟨item, hitem, rfl⟩ := List.mem_map.mp hes
    have hmeasured (owner es c) (hc : container owner es = .ok c) :
        IsMeasured (declaredAt name es) := by
      obtain ⟨_, _, hrequests, hlimits⟩ := container_eq_ok hc
      obtain rfl | rfl : name = "requests" ∨ name = "limits" := by simpa using hname
      · exact hrequests
      · exact hlimits
    obtain rfl | rfl : key = "containers" ∨ key = "initContainers" := by simpa using hkey
    · exact hcontainers.forall_mem hmeasured item hitem
    · exact hinit.forall_mem hmeasured item hitem
  · intro cs _ hnone
    exact ⟨Container.groupTotal_of_none_mem hnone,
      Container.groupTotal_of_none_mem (Container.none_mem_limited hnone)⟩

/-- A container of a name that declares requests and limits. -/
def declaring (name : String) (requests limits : Entries) : Document :=
  .object
    [ ("name", .text name),
      ("resources", .object [("requests", .object requests), ("limits", .object limits)]) ]

/-- A pod with a container that requests nothing but storage and one that has limits only, and with
two init containers, the second of which declares nothing. -/
def mixedPod : Document :=
  let storing := declaring "storing" [("storage", .text "1Gi")] [("cpu", .text "500m")]
  let limited := declaring "limited" [] [("cpu", .int 1), ("memory", .text "64Mi")]
  let requesting := declaring "requesting" [("cpu", .text "100m")] [("cpu", .text "1")]
  let silent := Document.object [("name", .text "silent"), ("resources", .null)]
  .object
    [ ("metadata", .object [("name", .text "mixed")]),
      ("spec", .object
        [("containers", .list [storing, limited]), ("initContainers", .list [requesting, silent])]) ]

theorem totals_of_mixed_pod :
  ∃ p, Source.pod mixedPod = .ok p
    ∧ p.requests = ⟨1000, 67108864⟩ ∧ p.limits = ⟨1500, 67108864⟩
    ∧ Container.groupTotal Container.limited? p.initContainers = {}
  := by
  obtain ⟨p, hp, hinit⟩ : ∃ p, Source.pod mixedPod = .ok p
      ∧ none ∈ p.initContainers.map Container.requested? := by
    exact ⟨_, rfl, by decide⟩
  obtain ⟨hrequests, hlimits, _, hreset⟩ := totals_of_pod hp
  refine ⟨p, hp, hrequests.trans ?_, hlimits.trans ?_, (hreset _ (by simp) hinit).2⟩
  · rfl
  · rfl

end Source

end PodTable
