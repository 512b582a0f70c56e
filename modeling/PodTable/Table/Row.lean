import PodTable.Pod.Health
import PodTable.Pod.Source
import PodTable.Pod.Usage
import PodTable.Settings.Basic
import PodTable.Table.Header
import PodTable.Time.Age

/-!
# Rows of the pod table

`PodTable.columns` is the table: each column comes with the cell that it shows of a pod. The
header and the rows of the table are read off this list, so a row has one field for each column.

An item to show is a reported pod with or without a reported sample of its usage.
-/

namespace PodTable

/-- What there is to show of a pod: the pod, a sample of its usage, and its age. -/
structure View where
  pod : Pod
  usage : Option PodUsage
  age : String

/-- A row of the table. -/
structure Row where
  id : String
  fields : List String
deriving DecidableEq, Repr

/-- Something to be shown in the table: a reported pod with a reported sample of its usage, or
null, or anything else, which cannot be shown. -/
inductive Item where
  | report (pod usage : Document)
  | other (value : Document)

namespace Cell

/-- What is shown beside the name of a pod for its forwarded ports. -/
def portForward : String := "●"

/-- A text, or a placeholder for an empty one. -/
def orNotAvailable : Option String → String
  | some s => if s.isEmpty then notAvailable else s
  | none => notAvailable

/-- The cell for a diagnosis, empty if there is none. -/
def diagnosis : Option String → String
  | some s => s
  | none => ""

/-- The short code of a class of service. -/
def serviceClass (s : String) : String :=
  if s = "Guaranteed" then "GA" else if s = "Burstable" then "BU" else "BE"

/-- Labels in the order of their keys. -/
def labels (ls : List (String × String)) : String :=
  if ls.isEmpty then noLabels
  else " ".intercalate ((ls.mergeSort (fun a b => a.1 ≤ b.1)).map (fun l => l.1 ++ "=" ++ l.2))

end Cell

namespace View

/-- The health of the containers. -/
def health (v : View) : Health := Health.ofStatuses v.pod.statuses

/-- The number of containers with a status. -/
def containerCount (v : View) : Nat := v.pod.statuses.length

/-- The cells for the usage. -/
def usageCells (v : View) : UsageCells := UsageCells.ofUsage v.pod v.usage

/-- The totals shown beside the usage. -/
def totals (v : View) : Option Totals := v.pod.shownTotals v.usage

/-- The cell for the number of ready containers. -/
def readyCell (v : View) : String :=
  Text.numeral v.health.ready ++ "/" ++ Text.numeral v.containerCount

/-- What is wrong with the pod. -/
def diagnosis (v : View) : Option String :=
  Health.diagnosis v.pod.status v.health.ready v.containerCount

end View

/-- The columns of the table, each with the cell that it shows. -/
def columns : List (Column × (View → String)) :=
  [ ({ name := "NAMESPACE" }, fun v => v.pod.namespaceName),
    ({ name := "NAME" }, fun v => v.pod.name),
    ({ name := "PF" }, fun _ => Cell.portForward),
    ({ name := "READY" }, View.readyCell),
    ({ name := "RESTARTS", alignRight := true }, fun v => Text.numeral v.health.restarts),
    ({ name := "STATUS" }, fun v => v.pod.status),
    ({ name := "CPU(R:L)", alignRight := true, metrics := true, wide := true },
      fun v => cpuTotalsCell v.totals),
    ({ name := "MEM(R:L)", alignRight := true, metrics := true, wide := true },
      fun v => memoryTotalsCell v.totals),
    ({ name := "CPU", alignRight := true, metrics := true }, fun v => v.usageCells.cpu),
    ({ name := "MEM", alignRight := true, metrics := true }, fun v => v.usageCells.memory),
    ({ name := "%CPU/R", alignRight := true, metrics := true },
      fun v => v.usageCells.cpuOfRequests),
    ({ name := "%MEM/R", alignRight := true, metrics := true },
      fun v => v.usageCells.memoryOfRequests),
    ({ name := "%CPU/L", alignRight := true, metrics := true },
      fun v => v.usageCells.cpuOfLimits),
    ({ name := "%MEM/L", alignRight := true, metrics := true },
      fun v => v.usageCells.memoryOfLimits),
    ({ name := "IP" }, fun v => Cell.orNotAvailable (some v.pod.address)),
    ({ name := "NODE" }, fun v => Cell.orNotAvailable (some v.pod.node)),
    ({ name := "QOS", wide := true }, fun v => Cell.serviceClass v.pod.serviceClass),
    ({ name := "LABELS", wide := true }, fun v => Cell.labels v.pod.labels),
    ({ name := "VALID", wide := true }, fun v => Cell.diagnosis v.diagnosis),
    ({ name := "AGE", time := true }, fun v => v.age) ]

/-- The header of the table. -/
def header : Header := columns.map (·.1)

/-- The header of the table in the wide or in the narrow display, which the settings choose
between if nothing else does. Without settings the display is wide. -/
def displayHeader (settings : Option Settings) (wide : Option Bool) : Header :=
  header.visible
    (match wide, settings with
    | some w, _ => w
    | none, some s => s.showWideColumns
    | none, none => true)

namespace View

/-- The row of a pod. -/
def row (v : View) : Row := ⟨v.pod.qualifiedName, columns.map (fun c => c.2 v)⟩

end View

namespace Item

variable [EpochRule]

/-- What there is to show of an item at a time. -/
def view (now : Timestamp) : Item → Except Failure View
  | report pod usage => do
    let p ← Source.pod pod
    let u ← Source.usage usage
    let age ← (Age.cell p.created now).mapError .untimed
    .ok ⟨p, u, age⟩
  | other value => Source.fail (.notItem value)

/-- The row of an item. -/
def render (now : Timestamp) (i : Item) : Except Failure Row := (i.view now).map View.row

end Item

end PodTable
