import PodTable.Checked.Scalar
import PodTable.Pod.Basic
import PodTable.Time.Reading

/-!
# Pods as records

Every part of a pod has a form as a record: an object with an entry for each field. For each
type there is a function `encode` that writes the record and a function `check` that reads it.
A field that is missing from a record has its default, and entries that belong to no field are
ignored. The state of a container is tagged by the entry `kind`.
-/

namespace PodTable

open Checked Document

namespace Resources

/-- The record of declared resources. -/
def encode (r : Resources) : Document :=
  .object
    [ ("cpu", (r.cpu.map Document.int).getD .null),
      ("memory", (r.memory.map Document.int).getD .null),
      ("other", .list (r.other.map Document.text)) ]

/-- Read the fields of declared resources. -/
def ofFields (es : Entries) : Checked Resources :=
  Resources.mk
    <$> defaulted "cpu" none (optional integer) es
    <*> defaulted "memory" none (optional integer) es
    <*> defaulted "other" [] (listOf text) es

/-- Read declared resources. -/
def check : Document → Checked Resources := record ofFields

end Resources

namespace Container

/-- The record of a container. -/
def encode (c : Container) : Document :=
  .object
    [ ("name", .text c.name),
      ("requests", c.requests.encode),
      ("limits", c.limits.encode) ]

/-- Read the fields of a container. -/
def ofFields (es : Entries) : Checked Container :=
  Container.mk
    <$> required "name" text es
    <*> defaulted "requests" {} Resources.check es
    <*> defaulted "limits" {} Resources.check es

/-- Read a container. -/
def check : Document → Checked Container := record ofFields

end Container

namespace ContainerState

/-- The tag of a state. -/
def kind : ContainerState → String
  | waiting _ => "waiting"
  | running => "running"
  | terminated _ _ _ => "terminated"

/-- The record of a state. -/
def encode (s : ContainerState) : Document :=
  match s with
  | waiting reason => .object [("kind", .text "waiting"), ("reason", .text reason)]
  | running => .object [("kind", .text "running")]
  | terminated reason exitCode signal =>
    .object
      [ ("kind", .text "terminated"),
        ("reason", .text reason),
        ("exit_code", .int exitCode),
        ("signal", .int signal) ]

/-- Read the fields of a waiting state. -/
def waitingOfFields (es : Entries) : Checked ContainerState :=
  waiting <$> defaulted "reason" "" text es

/-- Read the fields of a terminated state. -/
def terminatedOfFields (es : Entries) : Checked ContainerState :=
  terminated
    <$> defaulted "reason" "" text es
    <*> defaulted "exit_code" 0 integer es
    <*> defaulted "signal" 0 integer es

/-- Read the fields of the state with a given tag. -/
def ofTag (es : Entries) : Document → Checked ContainerState
  | .text "waiting" => (waitingOfFields es).under (.name "waiting")
  | .text "running" => .sound running
  | .text "terminated" => (terminatedOfFields es).under (.name "terminated")
  | _ => fault .unknownTag

/-- Read a state. -/
def check : Document → Checked ContainerState
  | .object es =>
    match lookup? es "kind" with
    | some tag => ofTag es tag
    | none => fault .noTag
  | _ => fault .notTaggedRecord

end ContainerState

namespace ContainerStatus

/-- The record of a status. -/
def encode (s : ContainerStatus) : Document :=
  .object
    [ ("name", .text s.name),
      ("ready", .bool s.ready),
      ("restart_count", .int s.restarts),
      ("state", (s.state.map ContainerState.encode).getD .null) ]

/-- Read the fields of a status. -/
def ofFields (es : Entries) : Checked ContainerStatus :=
  ContainerStatus.mk
    <$> required "name" text es
    <*> defaulted "ready" false flag es
    <*> defaulted "restart_count" 0 count es
    <*> defaulted "state" none (optional ContainerState.check) es

/-- Read a status. -/
def check : Document → Checked ContainerStatus := record ofFields

end ContainerStatus

namespace Pod

/-- The record of a pod. -/
def encode (p : Pod) : Document :=
  .object
    [ ("namespace", .text p.namespaceName),
      ("name", .text p.name),
      ("phase", .text p.phase),
      ("reason", .text p.reason),
      ("deletion_requested", .bool p.deletionRequested),
      ("containers", .list (p.containers.map Container.encode)),
      ("init_containers", .list (p.initContainers.map Container.encode)),
      ("container_statuses", .list (p.statuses.map ContainerStatus.encode)),
      ("init_container_statuses", .list (p.initStatuses.map ContainerStatus.encode)),
      ("pod_ip", .text p.address),
      ("node_name", .text p.node),
      ("qos_class", .text p.serviceClass),
      ("labels", .object (p.labels.map (fun l => (l.1, Document.text l.2)))),
      ("creation_timestamp", (p.created.map (fun t => Document.text t.text)).getD .null) ]

variable [EpochRule]

/-- Read the fields of a pod. -/
def ofFields (es : Entries) : Checked Pod :=
  Pod.mk
    <$> defaulted "namespace" "" text es
    <*> required "name" text es
    <*> defaulted "phase" "" text es
    <*> defaulted "reason" "" text es
    <*> defaulted "deletion_requested" false flag es
    <*> defaulted "containers" [] (listOf Container.check) es
    <*> defaulted "init_containers" [] (listOf Container.check) es
    <*> defaulted "container_statuses" [] (listOf ContainerStatus.check) es
    <*> defaulted "init_container_statuses" [] (listOf ContainerStatus.check) es
    <*> defaulted "pod_ip" "" text es
    <*> defaulted "node_name" "" text es
    <*> defaulted "qos_class" "" text es
    <*> defaulted "labels" [] (tableOf text) es
    <*> defaulted "creation_timestamp" none (optional Timestamp.check) es

/-- Read a pod. -/
def check : Document → Checked Pod := record ofFields

end Pod

namespace ContainerUsage

/-- The record of the usage of a container. -/
def encode (u : ContainerUsage) : Document :=
  .object [("name", .text u.name), ("cpu", .int u.cpu), ("memory", .int u.memory)]

/-- Read the fields of the usage of a container. -/
def ofFields (es : Entries) : Checked ContainerUsage :=
  ContainerUsage.mk
    <$> required "name" text es
    <*> defaulted "cpu" 0 integer es
    <*> defaulted "memory" 0 integer es

/-- Read the usage of a container. -/
def check : Document → Checked ContainerUsage := record ofFields

end ContainerUsage

namespace PodUsage

/-- The record of a usage sample. -/
def encode (u : PodUsage) : Document :=
  .object
    [ ("namespace", .text u.namespaceName),
      ("name", .text u.name),
      ("containers", .list (u.containers.map ContainerUsage.encode)) ]

/-- Read the fields of a usage sample. -/
def ofFields (es : Entries) : Checked PodUsage :=
  PodUsage.mk
    <$> defaulted "namespace" "" text es
    <*> defaulted "name" "" text es
    <*> defaulted "containers" [] (listOf ContainerUsage.check) es

/-- Read a usage sample. -/
def check : Document → Checked PodUsage := record ofFields

end PodUsage

end PodTable
