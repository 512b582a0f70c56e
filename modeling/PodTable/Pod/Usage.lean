import PodTable.Checked.Scalar
import PodTable.Placeholder
import PodTable.Pod.Resources
import PodTable.Text.Numeral

/-!
# The usage of a pod

The usage of a pod is the sum over the containers of a sample, which need not be the containers
that the pod declares. It is shown in thousandths of a core and in whole mebibytes, and as a
percentage of the requests and of the limits of the pod. Without a sample nothing is available,
and neither is a percentage of zero.
-/

namespace PodTable

/-- The cells that show the usage of a pod. -/
structure UsageCells where
  cpu : String := notAvailable
  memory : String := notAvailable
  cpuOfRequests : String := notAvailable
  memoryOfRequests : String := notAvailable
  cpuOfLimits : String := notAvailable
  memoryOfLimits : String := notAvailable
deriving DecidableEq, Repr

/-- The number of bytes in a mebibyte. -/
def mebibyte : Int := 1048576

/-- The whole mebibytes in a number of bytes, rounded toward zero. -/
def mebibytes (bytes : Int) : Int := Int.tdiv bytes mebibyte

/-- The percentage of `total` that `value` is, rounded down, and zero if `total` is zero. -/
def percentage (value total : Int) : Int := if total = 0 then 0 else Int.fdiv (value * 100) total

/-- The text of a percentage. -/
def percentageCell (value total : Int) : String :=
  if total = 0 then notAvailable else Text.numeral (percentage value total)

/-- The text of a request and a limit. -/
def pairCell (request limit : Int) : String := Text.numeral request ++ ":" ++ Text.numeral limit

namespace PodUsage

/-- The sum over the containers of a sample. -/
def total (u : PodUsage) : Amount := Amount.sum (u.containers.map (fun c => ⟨c.cpu, c.memory⟩))

end PodUsage

namespace UsageCells

/-- The cells for an amount used by a pod with the given totals. -/
def ofAmount (used : Amount) (totals : Totals) : UsageCells where
  cpu := Text.numeral used.cpu
  memory := Text.numeral (mebibytes used.memory)
  cpuOfRequests := percentageCell used.cpu totals.requests.cpu
  memoryOfRequests := percentageCell (mebibytes used.memory) (mebibytes totals.requests.memory)
  cpuOfLimits := percentageCell used.cpu totals.limits.cpu
  memoryOfLimits := percentageCell (mebibytes used.memory) (mebibytes totals.limits.memory)

/-- The cells for a pod and maybe a sample of its usage. -/
def ofUsage (p : Pod) : Option PodUsage → UsageCells
  | some u => ofAmount u.total p.totals
  | none => {}

/-- The record of the cells. -/
def encode (c : UsageCells) : Document :=
  .object
    [ ("cpu", .text c.cpu),
      ("mem", .text c.memory),
      ("cpu_pct_req", .text c.cpuOfRequests),
      ("mem_pct_req", .text c.memoryOfRequests),
      ("cpu_pct_lim", .text c.cpuOfLimits),
      ("mem_pct_lim", .text c.memoryOfLimits) ]

open Checked in
/-- Read the fields of the cells. -/
def ofFields (es : Entries) : Checked UsageCells :=
  UsageCells.mk
    <$> defaulted "cpu" notAvailable text es
    <*> defaulted "mem" notAvailable text es
    <*> defaulted "cpu_pct_req" notAvailable text es
    <*> defaulted "mem_pct_req" notAvailable text es
    <*> defaulted "cpu_pct_lim" notAvailable text es
    <*> defaulted "mem_pct_lim" notAvailable text es

/-- Read the cells. -/
def check : Document → Checked UsageCells := Checked.record ofFields

/-- The numbers in the cells for the usage and for the totals of a pod, with a sample of its
usage or without. -/
def numbers (p : Pod) : Option PodUsage → List Int
  | some u =>
    let used := u.total
    let totals := p.totals
    [ used.cpu,
      mebibytes used.memory,
      percentage used.cpu totals.requests.cpu,
      percentage (mebibytes used.memory) (mebibytes totals.requests.memory),
      percentage used.cpu totals.limits.cpu,
      percentage (mebibytes used.memory) (mebibytes totals.limits.memory),
      totals.requests.cpu,
      totals.limits.cpu,
      mebibytes totals.requests.memory,
      mebibytes totals.limits.memory ]
  | none => []

end UsageCells

namespace Pod

/-- The totals of a pod, shown only beside a sample of its usage. -/
def shownTotals (p : Pod) (u : Option PodUsage) : Option Totals := u.map (fun _ => p.totals)

end Pod

/-- The cell for the requests and the limits of processing. -/
def cpuTotalsCell : Option Totals → String
  | some t => pairCell t.requests.cpu t.limits.cpu
  | none => notAvailable

/-- The cell for the requests and the limits of memory, in mebibytes. -/
def memoryTotalsCell : Option Totals → String
  | some t => pairCell (mebibytes t.requests.memory) (mebibytes t.limits.memory)
  | none => notAvailable

end PodTable
