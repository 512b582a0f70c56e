import PodTable.Pod.Phase

/-!
# The health of a pod

Health counts the containers of a pod that are ready and those that have ended, whatever their
exit code, and adds up their restarts. A completed pod is healthy, and any other pod is healthy
when it has containers and all of them are ready.
-/

namespace PodTable

/-- Counts over the containers of a pod. -/
structure Health where
  ready : Nat
  terminated : Nat
  restarts : Nat
deriving DecidableEq, Repr

namespace ContainerStatus

/-- Whether a container has ended. -/
def isTerminated (s : ContainerStatus) : Bool :=
  match s.state with
  | some (.terminated _ _ _) => true
  | _ => false

end ContainerStatus

namespace Health

/-- The health of containers with the given statuses. -/
def ofStatuses (ss : List ContainerStatus) : Health where
  ready := ss.countP (fun s => s.ready)
  terminated := ss.countP ContainerStatus.isTerminated
  restarts := ss.foldr (fun s n => s.restarts + n) 0

theorem ready_le_length (ss : List ContainerStatus) :
  (ofStatuses ss).ready ≤ ss.length
  := List.countP_le_length

/-- What is wrong with a pod of a given status, so many of whose containers are ready. -/
def diagnosis (status : String) (ready total : Int) : Option String :=
  if status = Status.completed then none
  else if ready ≠ total ∨ total = 0 then
    some ("container ready check failed: " ++ Text.numeral ready ++ " of " ++ Text.numeral total)
  else none

end Health

end PodTable
