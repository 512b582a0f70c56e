import PodTable.Time.Timestamp

/-!
# Pods

A pod declares containers and init containers with the resources they ask for, and reports a
status for each of them. Processing is counted in thousandths of a core, memory in bytes. A
usage sample tells what the containers of a pod used at one time.
-/

namespace PodTable

/-- The resources declared in one list of a container: its requests or its limits. Resources
other than processing and memory are known by name only. -/
structure Resources where
  cpu : Option Int := none
  memory : Option Int := none
  other : List String := []
deriving DecidableEq, Repr

/-- The declaration of a container. -/
structure Container where
  name : String
  requests : Resources := {}
  limits : Resources := {}
deriving DecidableEq, Repr

/-- What a container is doing. -/
inductive ContainerState where
  | waiting (reason : String)
  | running
  | terminated (reason : String) (exitCode signal : Int)
deriving DecidableEq, Repr

/-- The status of a container. -/
structure ContainerStatus where
  name : String
  ready : Bool := false
  restarts : Nat := 0
  state : Option ContainerState := none
deriving DecidableEq, Repr

/-- The declaration and the status of a pod. -/
structure Pod where
  namespaceName : String := ""
  name : String
  phase : String := ""
  reason : String := ""
  deletionRequested : Bool := false
  containers : List Container := []
  initContainers : List Container := []
  statuses : List ContainerStatus := []
  initStatuses : List ContainerStatus := []
  address : String := ""
  node : String := ""
  serviceClass : String := ""
  labels : List (String × String) := []
  created : Option Timestamp := none
deriving DecidableEq, Repr

/-- The resources used by a container at the time of a sample. -/
structure ContainerUsage where
  name : String
  cpu : Int := 0
  memory : Int := 0
deriving DecidableEq, Repr

/-- The resources used by the containers of a pod at the time of a sample. -/
structure PodUsage where
  namespaceName : String := ""
  name : String := ""
  containers : List ContainerUsage := []
deriving DecidableEq, Repr

namespace Resources

/-- Whether nothing is declared. -/
def isEmpty (r : Resources) : Bool :=
  r.cpu.isNone && r.memory.isNone && r.other.isEmpty

end Resources

namespace Pod

/-- The name of a pod with its namespace in front, unless that is empty. -/
def qualifiedName (p : Pod) : String :=
  if p.namespaceName.isEmpty then p.name else p.namespaceName ++ "/" ++ p.name

end Pod

end PodTable
