import PodTable.Proofs.Checked.Faults
import PodTable.Proofs.Document.Rearranged
import PodTable.Proofs.Pod.Alike

/-!
# Rearranged pods

What is read from a reported pod or a usage sample does not depend on the order of the entries of
objects: labels and the names of other resources are sorted, and every other entry is looked up by
its key. Lists of containers and of statuses are read item by item, so when their items are
reordered the values are reordered in the same way.
-/

namespace PodTable

namespace Checked

open Document

variable {α : Type} {free : Set (List String)} {d e : Document}

/-! ### Tables -/

/-- The values of a table are read one by one, under the same keys. -/
theorem values_eq_sound_iff {read : Document → Checked α} {es : Entries}
    {as : List (String × α)} :
  values read es = sound as
    ↔ List.Forall₂ (fun e a => e.1 = a.1 ∧ read e.2 = sound a.2) es as
  := by
  induction es generalizing as with
  | nil => simp [values, eq_comm]
  | cons e es ih =>
    simp only [values, seq_eq_sound_iff, map_eq_sound_iff, under_eq_sound_iff,
      List.forall₂_cons_left_iff, ih]
    constructor
    · rintro ⟨_, as, ⟨a, ha, rfl⟩, has, rfl⟩
      exact ⟨(e.1, a), as, ⟨rfl, ha⟩, has, rfl⟩
    · rintro ⟨⟨_, a⟩, as, ⟨rfl, ha⟩, has, rfl⟩
      exact ⟨_, as, ⟨a, ha, rfl⟩, has, rfl⟩

/-- The values of a table in the order of their keys. -/
def byKey (as : List (String × α)) : List (String × α) := as.mergeSort (fun a b => a.1 ≤ b.1)

theorem byKey_perm (as : List (String × α)) :
  (byKey as).Perm as
  := List.mergeSort_perm _ _

theorem byKey_eq_nil_iff {as : List (String × α)} :
  byKey as = [] ↔ as = []
  := by
  rw [← List.isEmpty_iff, (byKey_perm as).isEmpty_eq, List.isEmpty_iff]

/-- Tables with distinct keys that are equal up to their order are equal in the order of keys. -/
theorem byKey_eq_of_perm {as bs : List (String × α)} (hkeys : (as.map (·.1)).Nodup)
    (h : as.Perm bs) :
  byKey as = byKey bs
  := mergeSort_perm_eq _ h (List.inj_on_of_nodup_map hkeys)

/-- Distinct keys increase in their order. -/
theorem pairwise_byKey {as : List (String × α)} (hkeys : (as.map (·.1)).Nodup) :
  (byKey as).Pairwise (fun a b => a.1 < b.1)
  := by
  have hne : (byKey as).Pairwise (fun a b => a.1 ≠ b.1) :=
    List.pairwise_map.mp (((byKey_perm as).map _).nodup_iff.mpr hkeys)
  exact ((pairwise_mergeSort (·.1) as).and hne).imp (fun h => lt_of_le_of_ne h.1 h.2)

variable {read : Document → Checked α}

theorem exists_values_perm {es fs : Entries} (h : es.Perm fs) {as : List (String × α)}
    (has : values read es = sound as) :
  ∃ bs, values read fs = sound bs ∧ as.Perm bs
  := by
  obtain ⟨bs, hbs, hperm⟩ := List.perm_comp_forall₂ h.symm (values_eq_sound_iff.mp has)
  exact ⟨bs, values_eq_sound_iff.mpr hbs, hperm.symm⟩

theorem keys_of_values {es : Entries} {as : List (String × α)} (h : values read es = sound as) :
  es.map (·.1) = as.map (·.1)
  := keys_eq_of_forall₂ ((values_eq_sound_iff.mp h).imp (fun _ _ => And.left))

/-- The values of rearranged tables agree up to their order. -/
theorem agree_values (hread : RefusesParts read) (h : Rearranged free d e) :
  Checked.Agree (fun as bs => byKey as = byKey bs) (values read d.entries) (values read e.entries)
  := by
  induction h with
  | refl d => exact (Agree.refl _).mono (fun _ _ => congrArg byKey)
  | trans _ _ ih ih' => exact ih.trans ih' (fun _ _ _ => Eq.trans)
  | entries hkeys h =>
    apply Agree.of_sound
    · intro as has
      obtain ⟨bs, hbs, hperm⟩ := exists_values_perm h has
      have hnodup : (as.map (·.1)).Nodup := keys_of_values has ▸ hkeys
      exact ⟨bs, hbs, byKey_eq_of_perm hnodup hperm⟩
    · intro bs hbs
      obtain ⟨as, has, _⟩ := exists_values_perm h.symm hbs
      exact ⟨as, has⟩
  | items _ _ => exact .sound rfl
  | inItem _ _ => exact .sound rfl
  | @inEntry _ before after key d e h _ =>
    have hentries : List.Forall₂ (fun x y => x.1 = y.1 ∧ SameShape x.2 y.2)
        (before ++ (key, d) :: after) (before ++ (key, e) :: after) :=
      forall₂_replace (fun _ => ⟨rfl, .refl _⟩) before after ⟨rfl, h.sameShape⟩
    exact (agree_values_of_forall₂ hread hentries).mono (fun _ _ => congrArg byKey)

end Checked

namespace Source

open Document

variable {owner owner' : Owner} {free : Set (List String)} {d e : Document}

/-! ### Containers and statuses -/

theorem tablesAlike_of_rearranged (h : Rearranged free d e) :
  TablesAlike d e
  where
    shape := h.sameShape
    keys := h.keys_perm
    values key := rel_imp (fun _ _ => Rearranged.sameShape) (h.rel_lookup? key)

theorem containersAlike_of_rearranged (h : Rearranged free d e) :
  ContainersAlike d.entries e.entries
  where
    name := rel_imp (fun _ _ => Rearranged.sameShape) (h.rel_lookup? "name")
    resources := (h.valueAt "resources").sameShape
    requests := tablesAlike_of_rearranged ((h.valueAt "resources").valueAt "requests")
    limits := tablesAlike_of_rearranged ((h.valueAt "resources").valueAt "limits")

theorem statusesAlike_of_rearranged (h : Rearranged free d e) :
  StatusesAlike d.entries e.entries
  where
    name := rel_imp (fun _ _ => Rearranged.sameShape) (h.rel_lookup? "name")
    ready := (h.valueAt "ready").sameField
    restarts := (h.valueAt "restartCount").sameField
    state := (h.valueAt "state").sameShape
    details key _ := ((h.valueAt "state").valueAt key).sameShape
    terminated key _ := (((h.valueAt "state").valueAt "terminated").valueAt key).sameField
    waiting := (((h.valueAt "state").valueAt "waiting").valueAt "reason").sameField

/-- What is read from an object does not depend on the order of entries in it. -/
def IgnoresOrder {α : Type} (read : Owner → Entries → Except Failure α) : Prop :=
  ∀ (owner : Owner) (free : Set (List String)) (d e : Document),
    Rearranged free d e → Agree Eq (read owner d.entries) (read owner e.entries)

theorem listsAlike_of_rearranged {α : Type} {read : Owner → Entries → Except Failure α}
    (hread : IgnoresOrder read) (h : Rearranged free d e) :
  ListsAlike read (SameUpToOrder ([] ∈ free)) d e
  where
    shape := h.sameShape
    items owner := Rearranged.agree_mapM
      (fun d e hde => agree_readItem hde.sameShape (hread owner _ d e hde)) h

theorem ignoresOrder_container :
  IgnoresOrder container
  := fun _ _ _ _ h => agree_container (containersAlike_of_rearranged h)

theorem ignoresOrder_containerStatus :
  IgnoresOrder containerStatus
  := fun _ _ _ _ h => agree_containerStatus (statusesAlike_of_rearranged h)

/-! ### Pods -/

/-- Equality of labels up to their order, and of the lists of a pod up to the order of those whose
ways in a reported pod are free. -/
def upToOrder (free : Set (List String)) : ListRelations where
  containers := SameUpToOrder (["spec", "containers"] ∈ free)
  initContainers := SameUpToOrder (["spec", "initContainers"] ∈ free)
  statuses := SameUpToOrder (["status", "containerStatuses"] ∈ free)
  initStatuses := SameUpToOrder (["status", "initContainerStatuses"] ∈ free)
  labels ls ms := Checked.byKey ls = Checked.byKey ms

/-- Pods that are equal up to the order of their labels and of those of their lists whose ways in a
reported pod are free. -/
def PodsAlike (free : Set (List String)) : Pod → Pod → Prop := PodsRelated (upToOrder free)

/-- Rearranged pods are alike, with lists that are equal up to their order if it is free. -/
theorem podsAlikeUpTo_of_rearranged (h : Rearranged free d e) :
  PodsAlikeUpTo (upToOrder free) d e
  := by
  have hfield (part key : String) : Rearranged (beneath (beneath free part) key)
      (fieldAt d part key) (fieldAt e part key) := (h.valueAt part).valueAt key
  have hlabels := hfield "metadata" "labels"
  exact
    { shape := h.sameShape
      sections := fun key _ => (h.valueAt key).sameShape
      containers := listsAlike_of_rearranged ignoresOrder_container (hfield "spec" "containers")
      initContainers :=
        listsAlike_of_rearranged ignoresOrder_container (hfield "spec" "initContainers")
      statuses :=
        listsAlike_of_rearranged ignoresOrder_containerStatus (hfield "status" "containerStatuses")
      initStatuses := listsAlike_of_rearranged ignoresOrder_containerStatus
        (hfield "status" "initContainerStatuses")
      name := (hfield "metadata" "name").sameShape
      deletion := (hfield "metadata" "deletionTimestamp").sameShape
      created := (hfield "metadata" "creationTimestamp").sameShape
      namespaceName := (hfield "metadata" "namespace").sameField
      node := (hfield "spec" "nodeName").sameField
      statusFields := fun key _ => (hfield "status" key).sameField
      labels := agree_tableOr (R := (upToOrder free).labels) rfl hlabels.sameField
        (Checked.agree_values Checked.refusesParts_text hlabels) _ }

/-- Rearranged pods are read to pods that are alike, or neither is read. -/
theorem agree_pod [EpochRule] (h : Rearranged free d e) :
  Agree (PodsAlike free) (pod d) (pod e)
  := agree_pod_of_alike (podsAlikeUpTo_of_rearranged h)

/-! ### Usage samples -/

/-- Usage samples that are equal up to the order of their containers if that is free. -/
inductive SamplesAlike (free : Set (List String)) (u : PodUsage) : PodUsage → Prop
  | intro {containers : List ContainerUsage}
      (h : SameUpToOrder (["containers"] ∈ free) u.containers containers) :
      SamplesAlike free u { u with containers := containers }

theorem agree_containerUsage (h : Rearranged free d e) :
  Agree Eq (containerUsage owner d.entries) (containerUsage owner' e.entries)
  := by
  apply (agree_sectionOf (h.valueAt "usage").sameShape).bind
  rintro _ _ ⟨rfl, rfl⟩
  apply (agree_amounts (tablesAlike_of_rearranged (h.valueAt "usage")).values).bind
  rintro a _ rfl
  apply agree_settle
  apply (agree_name (rel_imp (fun _ _ => Rearranged.sameShape) (h.rel_lookup? "name")) _).map
  rintro name _ rfl
  rfl

theorem ignoresOrder_containerUsage :
  IgnoresOrder containerUsage
  := fun _ _ _ _ h => agree_containerUsage h

theorem ignoresOwner_containerUsage :
  IgnoresOwner containerUsage
  := by
  intro owner owner' es
  have h : Rearranged ∅ (.object es) (.object es) := .refl _
  exact agree_containerUsage h

/-- Rearranged usage samples are read to samples that are alike, or neither is read. -/
theorem agree_usage (h : Rearranged free d e) :
  Agree (Option.Rel (SamplesAlike free)) (usage d) (usage e)
  := by
  have hobjects : Agree (Option.Rel (SamplesAlike free)) (usage (.object d.entries))
      (usage (.object e.entries)) := by
    have hmetadata := h.valueAt "metadata"
    have hlists := listsAlike_of_rearranged ignoresOrder_containerUsage (h.valueAt "containers")
    apply (agree_sectionOf hmetadata.sameShape).bind
    rintro _ _ ⟨rfl, rfl⟩
    apply Agree.mapError
    refine Agree.map (R := SamplesAlike free) ?_ (fun _ _ => .some)
    apply (agree_readList ignoresOwner_containerUsage hlists _ _).bind
    intro containers containers' hcontainers
    apply agree_settle
    have htext := Checked.refusesParts_text
    refine .seq (.map (agree_fieldOr htext (hmetadata.valueAt "namespace").sameField _ _) ?_)
      (agree_fieldOr htext (hmetadata.valueAt "name").sameField _ _)
    rintro ns _ rfl name _ rfl
    exact .intro hcontainers
  have hshape := h.sameShape
  cases hshape with
  | refl d =>
    cases d with
    | null => exact .ok .none
    | object es => exact hobjects
    | _ => exact .error
  | list => exact .error
  | object es fs => exact hobjects

end Source

end PodTable
