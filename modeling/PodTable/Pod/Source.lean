import PodTable.Pod.Failure

/-!
# Pods as reported

A pod, and a sample of its usage, is reported by a cluster as a document with the sections
`metadata`, `spec` and `status`. This module reads such documents into pods and usage samples.

A missing or null section, list or state counts as empty, and a vacuous value of a scalar field
counts as its default. Reading stops at the first part that cannot be read: the sections first,
then containers, init containers, statuses and init statuses in order, each of them a list
before any of its entries. The scalar fields of a pod come last, and their faults are reported
together. A refused amount is an error of the part that declares it, and the faults of a record
are errors of the document.
-/

namespace PodTable

namespace Source

open Document

/-- Fail with an error. -/
def fail {α : Type} (e : SourceError) : Except Failure α := .error (.unreadable e)

/-- The value of a checked reading of a record. -/
def settle {α : Type} (record : RecordKind) : Checked α → Except Failure α
  | .sound a => .ok a
  | .faulty fs => .error (.invalid record fs)

/-- The section of an object under a key. -/
def sectionOf (owner : Owner) (es : Entries) (key : String) : Except Failure Entries :=
  match lookup? es key with
  | none => .ok []
  | some .null => .ok []
  | some (.object fs) => .ok fs
  | some d => fail (.notSection owner key d)

/-- The items of a list as objects, the first of which stands at position `n`. -/
def objects (owner : Owner) (key : String) (n : Nat) :
    List Document → Except Failure (List Entries)
  | [] => .ok []
  | .object es :: ds => (objects owner key (n + 1) ds).map (es :: ·)
  | d :: _ => fail (.notEntry owner key n d)

/-- The list of objects in an object under a key. -/
def entriesOf (owner : Owner) (es : Entries) (key : String) :
    Except Failure (List Entries) :=
  match lookup? es key with
  | none => .ok []
  | some .null => .ok []
  | some (.list ds) => objects owner key 0 ds
  | some d => fail (.notList owner key d)

/-- Read objects in order, up to the first that cannot be read. The position of the first of them
is `n`. -/
def readEach {α : Type} (read : Nat → Entries → Except Failure α) (n : Nat) :
    List Entries → Except Failure (List α)
  | [] => .ok []
  | es :: ess => do
    let a ← read n es
    let as ← readEach read (n + 1) ess
    .ok (a :: as)

/-- The list in an object under a key, each item read as a part of the owner. -/
def readList {α : Type} (owner : Owner) (es : Entries) (key : String) (part : Nat → Part)
    (read : Owner → Entries → Except Failure α) : Except Failure (List α) := do
  let ess ← entriesOf owner es key
  readEach (fun i => read (owner.part (part i))) 0 ess

/-- The amount that an object holds under a key, if it has the key. -/
def amountOf? (measure : Document → Except Quantity.Refusal Int) (es : Entries) (key : String) :
    Except Failure (Option Int) :=
  match lookup? es key with
  | none => .ok none
  | some d => ((measure d).map some).mapError .refused

/-- The amounts of processing and of memory that an object holds. -/
def amounts (owner : Owner) (es : Entries) : Except Failure (Option Int × Option Int) :=
  Except.mapError (Failure.blameRefusal owner) do
    let cpu ← amountOf? Quantity.millicores es "cpu"
    let memory ← amountOf? Quantity.bytes es "memory"
    .ok (cpu, memory)

/-- The keys of an object other than those of processing and memory, in order. -/
def otherKeys (es : Entries) : List String :=
  ((es.map (·.1)).filter (fun k => k != "cpu" && k != "memory")).mergeSort (· ≤ ·)

/-- Read requests or limits. -/
def resources (owner : Owner) : Option Document → Except Failure Resources
  | none => .ok {}
  | some .null => .ok {}
  | some (.object es) => do
    let (cpu, memory) ← amounts owner es
    .ok ⟨cpu, memory, otherKeys es⟩
  | some d => fail (.notResources owner d)

/-- The name in an object, which is empty if it is missing. -/
def nameOf (es : Entries) : Document := (lookup? es "name").getD (.text "")

/-- Read a container. -/
def container (owner : Owner) (es : Entries) : Except Failure Container := do
  let rs ← sectionOf owner es "resources"
  let requests ← resources (owner.part .requests) (lookup? rs "requests")
  let limits ← resources (owner.part .limits) (lookup? rs "limits")
  settle .container
    ((fun name => Container.mk name requests limits)
      <$> (Checked.text (nameOf es)).under (.name "name"))

/-- Read a field that has a default for vacuous values. -/
def fieldOr {α : Type} (es : Entries) (key : String) (default : Document) (field : String)
    (read : Document → Checked α) : Checked α :=
  (read (lookupOr es key default)).under (.name field)

/-- Whether an object has an entry other than null under a key. -/
def has (es : Entries) (key : String) : Bool :=
  match lookup? es key with
  | none => false
  | some .null => false
  | some _ => true

/-- Read the details of a state of termination. -/
def terminatedState (es : Entries) : Except Failure ContainerState :=
  settle .terminatedState
    (ContainerState.terminated
      <$> fieldOr es "reason" (.text "") "reason" Checked.text
      <*> fieldOr es "exitCode" (.int 0) "exit_code" Checked.integer
      <*> fieldOr es "signal" (.int 0) "signal" Checked.integer)

/-- Read the details of a state of waiting. -/
def waitingState (es : Entries) : Except Failure ContainerState :=
  settle .waitingState
    (ContainerState.waiting <$> fieldOr es "reason" (.text "") "reason" Checked.text)

/-- Read the state of a container: the state of termination if there is one, or else of waiting,
or else of running. -/
def state (owner : Owner) (es : Entries) : Except Failure (Option ContainerState) := do
  let ss ← sectionOf owner es "state"
  if has ss "terminated" then
    let details ← sectionOf owner ss "terminated"
    (terminatedState details).map some
  else if has ss "waiting" then
    let details ← sectionOf owner ss "waiting"
    (waitingState details).map some
  else if has ss "running" then
    let _ ← sectionOf owner ss "running"
    .ok (some .running)
  else .ok none

/-- Read the status of a container. -/
def containerStatus (owner : Owner) (es : Entries) : Except Failure ContainerStatus := do
  let s ← state owner es
  settle .containerStatus
    ((fun name ready restarts => ContainerStatus.mk name ready restarts s)
      <$> (Checked.text (nameOf es)).under (.name "name")
      <*> fieldOr es "ready" (.bool false) "ready" Checked.flag
      <*> fieldOr es "restartCount" (.int 0) "restart_count" Checked.count)

/-- The owner of the errors of a document whose section `metadata` is known. -/
def identified (kind : ReportKind) (metadata : Entries) : Owner :=
  { kind := kind
    identity := some ((lookup? metadata "namespace").getD (.text ""), nameOf metadata) }

/-- Read a field in which a missing value counts as null. -/
def fieldOrNull {α : Type} (es : Entries) (key field : String) (read : Document → Checked α) :
    Checked α :=
  (read ((lookup? es key).getD .null)).under (.name field)

variable [EpochRule]

/-- Read a pod from its sections. -/
def podOfSections (owner : Owner) (metadata spec status : Entries) : Except Failure Pod := do
  let containers ← readList owner spec "containers" .container container
  let initContainers ← readList owner spec "initContainers" .initContainer container
  let statuses ← readList owner status "containerStatuses" .containerStatus containerStatus
  let initStatuses ←
    readList owner status "initContainerStatuses" .initContainerStatus containerStatus
  settle .pod
    ((fun ns name phase reason =>
        Pod.mk ns name phase reason (has metadata "deletionTimestamp")
          containers initContainers statuses initStatuses)
      <$> fieldOr metadata "namespace" (.text "") "namespace" Checked.text
      <*> fieldOrNull metadata "name" "name" Checked.text
      <*> fieldOr status "phase" (.text "") "phase" Checked.text
      <*> fieldOr status "reason" (.text "") "reason" Checked.text
      <*> fieldOr status "podIP" (.text "") "pod_ip" Checked.text
      <*> fieldOr spec "nodeName" (.text "") "node_name" Checked.text
      <*> fieldOr status "qosClass" (.text "") "qos_class" Checked.text
      <*> fieldOr metadata "labels" (.object []) "labels" (Checked.tableOf Checked.text)
      <*> fieldOrNull metadata "creationTimestamp" "creation_timestamp"
            (Checked.optional Timestamp.check))

/-- Read a pod. The faults of its records are errors of the pod. -/
def pod : Document → Except Failure Pod
  | .object es => do
    let metadata ← sectionOf { kind := .pod } es "metadata"
    let owner := identified .pod metadata
    let spec ← sectionOf owner es "spec"
    let status ← sectionOf owner es "status"
    (podOfSections owner metadata spec status).mapError (Failure.blameFaults owner)
  | d => fail (.notReport .pod d)

/-- Read the usage of a container. -/
def containerUsage (owner : Owner) (es : Entries) : Except Failure ContainerUsage := do
  let usage ← sectionOf owner es "usage"
  let (cpu, memory) ← amounts owner usage
  settle .containerUsage
    ((fun name => ContainerUsage.mk name (cpu.getD 0) (memory.getD 0))
      <$> (Checked.text (nameOf es)).under (.name "name"))

/-- Read a usage sample from its section `metadata` and its other entries. -/
def usageOfSections (owner : Owner) (metadata es : Entries) : Except Failure PodUsage := do
  let containers ← readList owner es "containers" .container containerUsage
  settle .podUsage
    ((fun ns name => PodUsage.mk ns name containers)
      <$> fieldOr metadata "namespace" (.text "") "namespace" Checked.text
      <*> fieldOr metadata "name" (.text "") "name" Checked.text)

/-- Read a usage sample, the faults of its records being errors of the sample. There is none if
the document is null. -/
def usage : Document → Except Failure (Option PodUsage)
  | .null => .ok none
  | .object es => do
    let metadata ← sectionOf { kind := .usage } es "metadata"
    let owner := identified .usage metadata
    ((usageOfSections owner metadata es).map some).mapError (Failure.blameFaults owner)
  | d => fail (.notReport .usage d)

end Source

end PodTable
