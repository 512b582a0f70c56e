import Mathlib.Data.List.Perm.Basic
import Mathlib.Data.List.Sort
import Mathlib.Data.String.Basic
import PodTable.Proofs.Document.Alike

/-!
# Pods that are read alike

What is read of a reported pod depends on some of its values only, and of these on less than the
whole. Two documents are alike when no reader of pods tells apart their values in the places that it
looks at. Then they are read to pods that are equal, up to what is known of their lists and labels,
or neither is read: `Source.agree_pod_of_alike`.
-/

namespace PodTable

theorem pairwise_mergeSort {α : Type} (key : α → String) (as : List α) :
  (as.mergeSort (fun a b => key a ≤ key b)).Pairwise (fun a b => key a ≤ key b)
  := by
  simpa using @List.pairwise_mergeSort α (fun a b => decide (key a ≤ key b))
    (by simpa using fun a b c => le_trans) (by simpa using fun a b => le_total _ _) as

/-- Sorting by keys that tell the items apart does not depend on the order of the items. -/
theorem mergeSort_perm_eq {α : Type} (key : α → String) {as bs : List α} (h : as.Perm bs)
    (hkey : ∀ a ∈ as, ∀ b ∈ as, key a = key b → a = b) :
  as.mergeSort (fun a b => key a ≤ key b) = bs.mergeSort (fun a b => key a ≤ key b)
  := by
  apply List.Perm.eq_of_pairwise _ (pairwise_mergeSort key as) (pairwise_mergeSort key bs)
  · exact (List.mergeSort_perm _ _).trans (h.trans (List.mergeSort_perm _ _).symm)
  · intro a b ha hb hab hba
    rw [(List.mergeSort_perm _ _).mem_iff] at ha hb
    exact hkey a ha b (h.mem_iff.mpr hb) (le_antisymm hab hba)

namespace Source

open Document

variable {α : Type} {owner owner' : Owner} {es fs : Entries} {key : String}

theorem agree_settle {β : Type} {R : α → β → Prop} {x : Checked α} {y : Checked β}
    (h : Checked.Agree R x y) (record : RecordKind) :
  Agree R (settle record x) (settle record y)
  := by
  cases h with
  | sound h => exact .ok h
  | faulty => exact .error

/-! ### Scalar fields -/

section Fields

variable {read : Document → Checked α}

theorem agree_fieldOr (hread : Checked.RefusesParts read)
    (h : SameField (valueAt es key) (valueAt fs key)) (default : Document) (field : String) :
  Checked.Agree Eq (fieldOr es key default field read) (fieldOr fs key default field read)
  := by
  apply Checked.Agree.under
  rw [lookupOr_eq, lookupOr_eq]
  cases h with
  | vacuous hes hfs =>
    rw [hes, hfs]
    apply Checked.Agree.refl
  | shape hes hfs h =>
    rw [hes, hfs]
    exact hread.agree h

/-- A table with a default is read alike if its values are. -/
theorem agree_tableOr {R : List (String × α) → List (String × α) → Prop} (hR : R [] [])
    (h : SameField (valueAt es key) (valueAt fs key))
    (hvalues : Checked.Agree R (Checked.values read (valueAt es key).entries)
      (Checked.values read (valueAt fs key).entries)) (field : String) :
  Checked.Agree R (fieldOr es key (.object []) field (Checked.tableOf read))
    (fieldOr fs key (.object []) field (Checked.tableOf read))
  := by
  apply Checked.Agree.under
  rw [lookupOr_eq, lookupOr_eq]
  cases h with
  | vacuous hes hfs =>
    rw [hes, hfs]
    exact .sound hR
  | shape hes hfs h =>
    rw [hes, hfs]
    generalize valueAt es key = d at h hvalues ⊢
    generalize valueAt fs key = e at h hvalues ⊢
    cases h with
    | refl d =>
      cases d with
      | object es => exact hvalues
      | _ => exact .faulty
    | list => exact .faulty
    | object => exact hvalues

theorem agree_fieldOrNull (hread : Checked.RefusesParts read)
    (h : SameShape (valueAt es key) (valueAt fs key)) (field : String) :
  Checked.Agree Eq (fieldOrNull es key field read) (fieldOrNull fs key field read)
  := (hread.agree h).under _ _

theorem agree_name (h : Option.Rel SameShape (lookup? es "name") (lookup? fs "name")) (s : Step) :
  Checked.Agree Eq ((Checked.text (nameOf es)).under s) ((Checked.text (nameOf fs)).under s)
  := (Checked.refusesParts_text.agree (rel_getD h (.refl _))).under _ _

end Fields

theorem has_iff :
  has es key = true ↔ valueAt es key ≠ .null
  := by
  unfold has valueAt
  split <;> simp_all

theorem has_eq (h : SameShape (valueAt es key) (valueAt fs key)) :
  has es key = has fs key
  := by
  rw [Bool.eq_iff_iff, has_iff, has_iff]
  generalize valueAt es key = d at h ⊢
  generalize valueAt fs key = e at h ⊢
  cases h <;> simp

/-! ### Sections and lists -/

/-- A section is read from the value under its key, null counting as a missing value. -/
theorem sectionOf_eq (owner : Owner) (es : Entries) (key : String) :
  sectionOf owner es key = match valueAt es key with
    | .null => .ok []
    | .object fs => .ok fs
    | d => fail (.notSection owner key d)
  := by
  rw [sectionOf, valueAt]
  cases lookup? es key with
  | none => rfl
  | some d => cases d <;> rfl

theorem agree_sectionOf (h : SameShape (valueAt es key) (valueAt fs key)) :
  Agree (fun rs rs' => rs = (valueAt es key).entries ∧ rs' = (valueAt fs key).entries)
    (sectionOf owner es key) (sectionOf owner' fs key)
  := by
  rw [sectionOf_eq, sectionOf_eq]
  generalize valueAt es key = d at h ⊢
  generalize valueAt fs key = e at h ⊢
  cases h with
  | refl d =>
    cases d with
    | null => exact .ok ⟨rfl, rfl⟩
    | object es => exact .ok ⟨rfl, rfl⟩
    | _ => exact .error
  | list => exact .error
  | object => exact .ok ⟨rfl, rfl⟩

/-- What is read does not depend on the owner. -/
def IgnoresOwner (read : Owner → Entries → Except Failure α) : Prop :=
  ∀ owner owner' es, Agree Eq (read owner es) (read owner' es)

/-- Read an item of a list, which has to be an object. -/
def readItem (read : Entries → Except Failure α) : Document → Except Failure α
  | .object es => read es
  | d => fail (.notItem d)

/-- Items of one shape are read alike if their entries are. -/
theorem agree_readItem {read : Entries → Except Failure α} {d e : Document} (h : SameShape d e)
    (hentries : Agree Eq (read d.entries) (read e.entries)) :
  Agree Eq (readItem read d) (readItem read e)
  := by
  cases h with
  | refl => apply Agree.refl
  | list => exact .error
  | object => exact hentries

/-- A list is read one object after another. -/
theorem agree_objects {read : Owner → Entries → Except Failure α} (hread : IgnoresOwner read)
    (owner owner' : Owner) (key : String) (part : Nat → Part) (n m : Nat) (ds : List Document) :
  Agree Eq
    (objects owner key n ds >>= readEach (fun i => read (owner.part (part i))) m)
    (ds.mapM (readItem (read owner')))
  := by
  induction ds generalizing n m with
  | nil => exact .ok rfl
  | cons d ds ih =>
    rw [List.mapM_cons]
    cases d with
    | object es =>
      have hrest := ih (n + 1) (m + 1)
      rw [objects]
      generalize objects owner key (n + 1) ds = x at hrest ⊢
      generalize ds.mapM (readItem (read owner')) = y at hrest ⊢
      cases x with
      | error e =>
        -- The list is refused before any item is read.
        obtain ⟨_⟩ := hrest
        cases readItem (read owner') (.object es) <;> exact .error
      | ok ess =>
        apply (hread _ _ _).bind
        rintro a _ rfl
        apply hrest.bind
        rintro as _ rfl
        exact .ok rfl
    | _ => exact .error

/-- Values of one shape whose items are read to lists in a relation, or not read. -/
structure ListsAlike (read : Owner → Entries → Except Failure α) (R : List α → List α → Prop)
    (d e : Document) : Prop where
  shape : SameShape d e
  items : ∀ owner, Agree R (d.items.mapM (readItem (read owner)))
    (e.items.mapM (readItem (read owner)))

theorem entriesOf_eq (owner : Owner) (es : Entries) (key : String) :
  entriesOf owner es key = match valueAt es key with
    | .null => .ok []
    | .list ds => objects owner key 0 ds
    | d => fail (.notList owner key d)
  := by
  rw [entriesOf, valueAt]
  cases lookup? es key with
  | none => rfl
  | some d => cases d <;> rfl

theorem agree_readList {read : Owner → Entries → Except Failure α} {R : List α → List α → Prop}
    (hread : IgnoresOwner read) (h : ListsAlike read R (valueAt es key) (valueAt fs key))
    (part part' : Nat → Part) :
  Agree R (readList owner es key part read) (readList owner' fs key part' read)
  := by
  obtain ⟨hshape, hitems⟩ := h
  have hlists {ds ds' : List Document}
      (hitems : Agree R (ds.mapM (readItem (read owner))) (ds'.mapM (readItem (read owner)))) :
      Agree R (objects owner key 0 ds >>= readEach (fun i => read (owner.part (part i))) 0)
        (objects owner' key 0 ds' >>= readEach (fun i => read (owner'.part (part' i))) 0) :=
    hitems.congr (agree_objects hread owner owner key part 0 0 ds)
      (agree_objects hread owner' owner key part' 0 0 ds')
  rw [readList, readList, entriesOf_eq, entriesOf_eq]
  generalize valueAt es key = d at hshape hitems ⊢
  generalize valueAt fs key = e at hshape hitems ⊢
  cases hshape with
  | refl d =>
    cases d with
    | null =>
      cases hitems owner with
      | ok h => exact .ok h
    | list ds => exact hlists (hitems owner)
    | _ => exact .error
  | list ds ds' => exact hlists (hitems owner)
  | object => exact .error

/-! ### Containers -/

/-- A measure of scalar values refuses every list and every object. -/
structure RefusesParts (measure : Document → Except Quantity.Refusal Int) : Prop where
  list : ∀ ds, ∃ r, measure (.list ds) = .error r
  object : ∀ es, ∃ r, measure (.object es) = .error r

theorem refusesParts_millicores :
  RefusesParts Quantity.millicores
  := ⟨fun _ => ⟨_, rfl⟩, fun _ => ⟨_, rfl⟩⟩

theorem refusesParts_bytes :
  RefusesParts Quantity.bytes
  := ⟨fun _ => ⟨_, rfl⟩, fun _ => ⟨_, rfl⟩⟩

theorem agree_amountOf? {measure : Document → Except Quantity.Refusal Int}
    (hmeasure : RefusesParts measure) (h : Option.Rel SameShape (lookup? es key) (lookup? fs key)) :
  Agree Eq (amountOf? measure es key) (amountOf? measure fs key)
  := by
  unfold amountOf?
  generalize lookup? es key = x at h ⊢
  generalize lookup? fs key = y at h ⊢
  cases h with
  | none => exact .ok rfl
  | some h =>
    apply Agree.mapError
    cases h with
    | refl => apply Agree.refl
    | list ds ds' =>
      obtain ⟨_, hds⟩ := hmeasure.list ds
      obtain ⟨_, hds'⟩ := hmeasure.list ds'
      rw [hds, hds']
      exact .error
    | object es fs =>
      obtain ⟨_, hes⟩ := hmeasure.object es
      obtain ⟨_, hfs⟩ := hmeasure.object fs
      rw [hes, hfs]
      exact .error

theorem agree_amounts (h : ∀ key, Option.Rel SameShape (lookup? es key) (lookup? fs key)) :
  Agree Eq (amounts owner es) (amounts owner' fs)
  := by
  apply Agree.mapError
  apply (agree_amountOf? refusesParts_millicores (h "cpu")).bind
  rintro cpu _ rfl
  apply (agree_amountOf? refusesParts_bytes (h "memory")).bind
  rintro memory _ rfl
  exact .ok rfl

/-- Values of one shape with the same keys, and values of one shape under each of them. -/
structure TablesAlike (d e : Document) : Prop where
  shape : SameShape d e
  keys : (d.entries.map (·.1)).Perm (e.entries.map (·.1))
  values : ∀ key, Option.Rel SameShape (lookup? d.entries key) (lookup? e.entries key)

theorem TablesAlike.refl (d : Document) :
  TablesAlike d d
  := ⟨.refl d, .refl _, fun _ => rel_refl SameShape.refl _⟩

theorem resources_lookup? (owner : Owner) (es : Entries) (key : String) :
  resources owner (lookup? es key) = resources owner (some (valueAt es key))
  := by
  rw [valueAt]
  cases lookup? es key <;> rfl

theorem agree_resources (h : TablesAlike (valueAt es key) (valueAt fs key)) :
  Agree Eq (resources owner (lookup? es key)) (resources owner' (lookup? fs key))
  := by
  have hobjects {es fs : Entries} (h : TablesAlike (.object es) (.object fs)) :
      Agree Eq (resources owner (some (.object es))) (resources owner' (some (.object fs))) := by
    have hkeys : otherKeys es = otherKeys fs :=
      mergeSort_perm_eq id (h.keys.filter _) (fun _ _ _ _ => id)
    apply (agree_amounts h.values).bind
    rintro a _ rfl
    exact .ok (by rw [hkeys])
  rw [resources_lookup?, resources_lookup?]
  generalize valueAt es key = d at h ⊢
  generalize valueAt fs key = e at h ⊢
  cases h.shape with
  | refl d =>
    cases d with
    | null => exact .ok rfl
    | object es => exact hobjects h
    | _ => exact .error
  | list => exact .error
  | object es fs => exact hobjects h

/-- The declarations of containers are alike in what is read of them. -/
structure ContainersAlike (es fs : Entries) : Prop where
  name : Option.Rel SameShape (lookup? es "name") (lookup? fs "name")
  resources : SameShape (valueAt es "resources") (valueAt fs "resources")
  requests : TablesAlike (valueAt (valueAt es "resources").entries "requests")
    (valueAt (valueAt fs "resources").entries "requests")
  limits : TablesAlike (valueAt (valueAt es "resources").entries "limits")
    (valueAt (valueAt fs "resources").entries "limits")

theorem agree_container (h : ContainersAlike es fs) :
  Agree Eq (container owner es) (container owner' fs)
  := by
  apply (agree_sectionOf h.resources).bind
  rintro _ _ ⟨rfl, rfl⟩
  apply (agree_resources h.requests).bind
  rintro requests _ rfl
  apply (agree_resources h.limits).bind
  rintro limits _ rfl
  apply agree_settle
  apply (agree_name h.name _).map
  rintro name _ rfl
  rfl

theorem ignoresOwner_container :
  IgnoresOwner container
  := by
  intro owner owner' es
  exact agree_container
    ⟨rel_refl SameShape.refl _, .refl _, .refl _, .refl _⟩

/-! ### Statuses -/

/-- The statuses of containers are alike in what is read of them. -/
structure StatusesAlike (es fs : Entries) : Prop where
  name : Option.Rel SameShape (lookup? es "name") (lookup? fs "name")
  ready : SameField (valueAt es "ready") (valueAt fs "ready")
  restarts : SameField (valueAt es "restartCount") (valueAt fs "restartCount")
  state : SameShape (valueAt es "state") (valueAt fs "state")
  details : ∀ key ∈ ["terminated", "waiting", "running"],
    SameShape (valueAt (valueAt es "state").entries key) (valueAt (valueAt fs "state").entries key)
  terminated : ∀ key ∈ ["reason", "exitCode", "signal"],
    SameField (valueAt (valueAt (valueAt es "state").entries "terminated").entries key)
      (valueAt (valueAt (valueAt fs "state").entries "terminated").entries key)
  waiting : SameField (valueAt (valueAt (valueAt es "state").entries "waiting").entries "reason")
    (valueAt (valueAt (valueAt fs "state").entries "waiting").entries "reason")

theorem agree_terminatedState
    (h : ∀ key ∈ ["reason", "exitCode", "signal"], SameField (valueAt es key) (valueAt fs key)) :
  Agree Eq (terminatedState es) (terminatedState fs)
  := by
  apply agree_settle
  refine .seq (.seq (.map (agree_fieldOr Checked.refusesParts_text (h _ (by simp)) _ _) ?_)
    (agree_fieldOr Checked.refusesParts_integer (h _ (by simp)) _ _))
    (agree_fieldOr Checked.refusesParts_integer (h _ (by simp)) _ _)
  rintro reason _ rfl exitCode _ rfl signal _ rfl
  rfl

theorem agree_waitingState (h : SameField (valueAt es "reason") (valueAt fs "reason")) :
  Agree Eq (waitingState es) (waitingState fs)
  := by
  apply agree_settle
  apply (agree_fieldOr Checked.refusesParts_text h _ _).map
  rintro reason _ rfl
  rfl

theorem agree_state (h : StatusesAlike es fs) :
  Agree Eq (state owner es) (state owner' fs)
  := by
  apply (agree_sectionOf h.state).bind
  rintro _ _ ⟨rfl, rfl⟩
  have hterminated := h.details "terminated" (by simp)
  have hwaiting := h.details "waiting" (by simp)
  have hrunning := h.details "running" (by simp)
  rw [has_eq hterminated, has_eq hwaiting, has_eq hrunning]
  split_ifs
  · apply (agree_sectionOf hterminated).bind
    rintro _ _ ⟨rfl, rfl⟩
    exact (agree_terminatedState h.terminated).map (fun _ _ => congrArg some)
  · apply (agree_sectionOf hwaiting).bind
    rintro _ _ ⟨rfl, rfl⟩
    exact (agree_waitingState h.waiting).map (fun _ _ => congrArg some)
  · apply (agree_sectionOf hrunning).bind
    intro _ _ _
    exact .ok rfl
  · exact .ok rfl

theorem agree_containerStatus (h : StatusesAlike es fs) :
  Agree Eq (containerStatus owner es) (containerStatus owner' fs)
  := by
  apply (agree_state h).bind
  rintro s _ rfl
  apply agree_settle
  refine .seq (.seq (.map (agree_name h.name _) ?_)
    (agree_fieldOr Checked.refusesParts_flag h.ready _ _))
    (agree_fieldOr Checked.refusesParts_count h.restarts _ _)
  rintro name _ rfl ready _ rfl restarts _ rfl
  rfl

theorem ignoresOwner_containerStatus :
  IgnoresOwner containerStatus
  := by
  intro owner owner' es
  exact agree_containerStatus
    ⟨rel_refl SameShape.refl _, .refl _, .refl _, .refl _, fun _ _ => .refl _, fun _ _ => .refl _,
      .refl _⟩

/-! ### Pods -/

/-- Relations between the lists of two pods, and between their labels. -/
structure ListRelations where
  containers : List Container → List Container → Prop
  initContainers : List Container → List Container → Prop
  statuses : List ContainerStatus → List ContainerStatus → Prop
  initStatuses : List ContainerStatus → List ContainerStatus → Prop
  labels : List (String × String) → List (String × String) → Prop

/-- Pods that are equal up to their lists and their labels, which are in a relation. -/
inductive PodsRelated (R : ListRelations) (p : Pod) : Pod → Prop
  | intro {containers initContainers : List Container}
      {statuses initStatuses : List ContainerStatus} {labels : List (String × String)}
      (hcontainers : R.containers p.containers containers)
      (hinit : R.initContainers p.initContainers initContainers)
      (hstatuses : R.statuses p.statuses statuses)
      (hinitStatuses : R.initStatuses p.initStatuses initStatuses)
      (hlabels : R.labels p.labels labels) :
      PodsRelated R p
        { p with
          containers := containers, initContainers := initContainers, statuses := statuses,
          initStatuses := initStatuses, labels := labels }

/-- The value under a key in a section of a reported pod. -/
def fieldAt (d : Document) (part key : String) : Document := valueAt (sectionAt d part) key

/-- Reported pods are alike in what is read of them, with lists in the given relations. -/
structure PodsAlikeUpTo (R : ListRelations) (d e : Document) : Prop where
  shape : SameShape d e
  sections : ∀ key ∈ ["metadata", "spec", "status"],
    SameShape (valueAt d.entries key) (valueAt e.entries key)
  containers : ListsAlike container R.containers (fieldAt d "spec" "containers")
    (fieldAt e "spec" "containers")
  initContainers : ListsAlike container R.initContainers (fieldAt d "spec" "initContainers")
    (fieldAt e "spec" "initContainers")
  statuses : ListsAlike containerStatus R.statuses (fieldAt d "status" "containerStatuses")
    (fieldAt e "status" "containerStatuses")
  initStatuses : ListsAlike containerStatus R.initStatuses
    (fieldAt d "status" "initContainerStatuses") (fieldAt e "status" "initContainerStatuses")
  name : SameShape (fieldAt d "metadata" "name") (fieldAt e "metadata" "name")
  deletion : SameShape (fieldAt d "metadata" "deletionTimestamp")
    (fieldAt e "metadata" "deletionTimestamp")
  created : SameShape (fieldAt d "metadata" "creationTimestamp")
    (fieldAt e "metadata" "creationTimestamp")
  namespaceName : SameField (fieldAt d "metadata" "namespace") (fieldAt e "metadata" "namespace")
  node : SameField (fieldAt d "spec" "nodeName") (fieldAt e "spec" "nodeName")
  statusFields : ∀ key ∈ ["phase", "reason", "podIP", "qosClass"],
    SameField (fieldAt d "status" key) (fieldAt e "status" key)
  labels : Checked.Agree R.labels
    (fieldOr (sectionAt d "metadata") "labels" (.object []) "labels" (Checked.tableOf Checked.text))
    (fieldOr (sectionAt e "metadata") "labels" (.object []) "labels" (Checked.tableOf Checked.text))

/-- Reported pods that are alike are read to pods that are equal up to their lists, or neither is
read. -/
theorem agree_pod_of_alike [EpochRule] {R : ListRelations} {d e : Document}
    (h : PodsAlikeUpTo R d e) :
  Agree (PodsRelated R) (pod d) (pod e)
  := by
  have hobjects : Agree (PodsRelated R) (pod (.object d.entries)) (pod (.object e.entries)) := by
    apply (agree_sectionOf (h.sections "metadata" (by simp))).bind
    rintro _ _ ⟨rfl, rfl⟩
    apply (agree_sectionOf (h.sections "spec" (by simp))).bind
    rintro _ _ ⟨rfl, rfl⟩
    apply (agree_sectionOf (h.sections "status" (by simp))).bind
    rintro _ _ ⟨rfl, rfl⟩
    apply Agree.mapError
    apply (agree_readList ignoresOwner_container h.containers _ _).bind
    intro containers containers' hcontainers
    apply (agree_readList ignoresOwner_container h.initContainers _ _).bind
    intro initContainers initContainers' hinit
    apply (agree_readList ignoresOwner_containerStatus h.statuses _ _).bind
    intro statuses statuses' hstatuses
    apply (agree_readList ignoresOwner_containerStatus h.initStatuses _ _).bind
    intro initStatuses initStatuses' hinitStatuses
    apply agree_settle
    have htext := Checked.refusesParts_text
    refine .seq (.seq (.seq (.seq (.seq (.seq (.seq (.seq (.map
      (agree_fieldOr htext h.namespaceName _ _) ?_)
      (agree_fieldOrNull htext h.name _))
      (agree_fieldOr htext (h.statusFields "phase" (by simp)) _ _))
      (agree_fieldOr htext (h.statusFields "reason" (by simp)) _ _))
      (agree_fieldOr htext (h.statusFields "podIP" (by simp)) _ _))
      (agree_fieldOr htext h.node _ _))
      (agree_fieldOr htext (h.statusFields "qosClass" (by simp)) _ _))
      h.labels)
      (agree_fieldOrNull Checked.refusesParts_time h.created _)
    rintro ns _ rfl name _ rfl phase _ rfl reason _ rfl address _ rfl node _ rfl serviceClass _ rfl
      labels labels' hlabels created _ rfl
    have hdeletion : has (valueAt d.entries "metadata").entries "deletionTimestamp"
        = has (valueAt e.entries "metadata").entries "deletionTimestamp" := has_eq h.deletion
    rw [hdeletion]
    exact .intro hcontainers hinit hstatuses hinitStatuses hlabels
  obtain ⟨hshape, _⟩ := h
  cases hshape with
  | refl d =>
    cases d with
    | object es => exact hobjects
    | _ => exact .error
  | list => exact .error
  | object es fs => exact hobjects

end Source

end PodTable
