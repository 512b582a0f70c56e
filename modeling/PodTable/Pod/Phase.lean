import PodTable.Pod.Basic

/-!
# The status of a pod

The status shown for a pod is its phase or its reason, unless a container tells more. The first
init container that has not ended successfully decides the status. Otherwise a pod that is being
deleted is terminating, and otherwise the first container with something to report decides. A
completed pod with a container that is ready and running counts as running.

Containers are scanned from the last to the first, so the first of several reports is the one that
stays.
-/

namespace PodTable

namespace Status

/-- Waiting to be placed on a node. -/
def pending : String := "Pending"

/-- Running. -/
def running : String := "Running"

/-- Ended successfully. -/
def completed : String := "Completed"

/-- Being deleted. -/
def terminating : String := "Terminating"

/-- Being deleted from a node that does not answer. -/
def unknown : String := "Unknown"

/-- Containers are being created. -/
def containerCreating : String := "ContainerCreating"

/-- Init containers are being run. -/
def podInitializing : String := "PodInitializing"

/-- All init containers have ended. -/
def initialized : String := "Initialized"

/-- The reason of a pod whose node does not answer. -/
def nodeLost : String := "NodeLost"

end Status

namespace ContainerState

/-- The reason for a termination, or else the signal or the exit code that ended it. -/
def terminationLabel (reason : String) (exitCode signal : Int) : String :=
  if !reason.isEmpty then reason
  else if signal ≠ 0 then "Signal:" ++ Text.numeral signal
  else "ExitCode:" ++ Text.numeral exitCode

/-- What the state of a regular container has to report. -/
def report : ContainerState → Option String
  | waiting reason => if reason.isEmpty then none else some reason
  | running => none
  | terminated reason exitCode signal => some (terminationLabel reason exitCode signal)

end ContainerState

namespace ContainerStatus

/-- The status that an init container gives to its pod: none if it ended successfully, and the
number of init containers before it, out of their count, if it has nothing else to report. -/
def initLabel (s : ContainerStatus) (index count : Int) : Option String :=
  let progress := some ("Init:" ++ Text.numeral index ++ "/" ++ Text.numeral count)
  match s.state with
  | some (.terminated reason exitCode signal) =>
    if exitCode = 0 then none
    else some ("Init:" ++ ContainerState.terminationLabel reason exitCode signal)
  | some (.waiting reason) =>
    if reason.isEmpty || reason == Status.podInitializing then progress
    else some ("Init:" ++ reason)
  | _ => progress

/-- What a regular container has to report. -/
def report (s : ContainerStatus) : Option String := s.state.bind ContainerState.report

/-- Whether a container is ready and running. -/
def isLive (s : ContainerStatus) : Bool := s.ready && s.state == some .running

/-- The status given by the first of the init containers that has not ended successfully, the
first of which has the given index. -/
def firstInitLabel (count : Int) : Int → List ContainerStatus → Option String
  | _, [] => none
  | index, s :: ss =>
    match s.initLabel index count with
    | some label => some label
    | none => firstInitLabel count (index + 1) ss

/-- Go on from what was found so far, a label and whether there is a live container, to one more
container. -/
def scanStep (found : String × Bool) (s : ContainerStatus) : String × Bool :=
  match s.report with
  | some label => (label, found.2)
  | none => if s.isLive then (found.1, true) else found

/-- Scan containers from the last to the first, each report taking the place of the label. -/
def scan (statuses : List ContainerStatus) (label : String) : String × Bool :=
  statuses.reverse.foldl scanStep (label, false)

end ContainerStatus

namespace Pod

/-- The status that the init containers give to a pod. -/
def initLabel (p : Pod) : Option String :=
  ContainerStatus.firstInitLabel p.initContainers.length 0 p.initStatuses

/-- The reason of a pod, or its phase if it has none. -/
def ownLabel (p : Pod) : String := if p.reason.isEmpty then p.phase else p.reason

/-- The status shown for a pod. -/
def status (p : Pod) : String :=
  if p.deletionRequested && p.reason == Status.nodeLost then Status.unknown
  else
    match p.initLabel with
    | some label => label
    | none =>
      let (found, live) := ContainerStatus.scan p.statuses p.ownLabel
      let label := if live && found == Status.completed then Status.running else found
      if p.deletionRequested then Status.terminating else label

end Pod

end PodTable
