import PodTable.Pod.Record
import PodTable.Quantity
import PodTable.Time.Age

/-!
# Failures

A row of the table fails for a cause. A `SourceError` says why a reported document cannot be read,
and names its owner, the part of the document that it was found in. Other failures have no owner
when they come up: a refused amount, the faults of a record, and a duration that is not known.
`Failure.blameRefusal` and `Failure.blameFaults` give the first two an owner.

The identity of an owner is any two documents. Their text is made whole however deep they are nested,
so no message fails for lack of room.
-/

namespace PodTable

/-- A part of a pod that owns an error. -/
inductive Part where
  | container (index : Nat)
  | initContainer (index : Nat)
  | containerStatus (index : Nat)
  | initContainerStatus (index : Nat)
  | requests
  | limits
deriving DecidableEq, Repr

/-- The kinds of documents reported. -/
inductive ReportKind where
  | pod
  | usage
deriving DecidableEq, Repr

/-- The owner of an error: a document, by its namespace and name once they are known, and a part
of it. -/
structure Owner where
  kind : ReportKind
  identity : Option (Document × Document) := none
  parts : List Part := []

/-- The records whose fields may be at fault. -/
inductive RecordKind where
  | container
  | waitingState
  | terminatedState
  | containerStatus
  | pod
  | containerUsage
  | podUsage
deriving DecidableEq, Repr

/-- Why a reported document cannot be read. -/
inductive SourceError where
  | notItem (found : Document)
  | notReport (kind : ReportKind) (found : Document)
  | notSection (owner : Owner) (key : String) (found : Document)
  | notList (owner : Owner) (key : String) (found : Document)
  | notEntry (owner : Owner) (key : String) (index : Nat) (found : Document)
  | notResources (owner : Owner) (found : Document)
  | badQuantity (owner : Owner) (refusal : Quantity.Refusal)
  | illTyped (owner : Owner) (record : RecordKind) (faults : List Fault)

/-- What keeps a row from being made: an error of a reported document, or what has not become one
yet, a refused amount, the faults of a record, or a duration that is not known. -/
inductive Failure where
  | unreadable (error : SourceError)
  | refused (refusal : Quantity.Refusal)
  | invalid (record : RecordKind) (faults : List Fault)
  | untimed (fault : TimeFault)

namespace Part

/-- The text of a part in a message. -/
def text : Part → String
  | container i => " container " ++ Text.numeral i
  | initContainer i => " init container " ++ Text.numeral i
  | containerStatus i => " container status " ++ Text.numeral i
  | initContainerStatus i => " init container status " ++ Text.numeral i
  | requests => " requests"
  | limits => " limits"

end Part

namespace ReportKind

/-- The text of a kind of document in a message. -/
def text : ReportKind → String
  | pod => "pod"
  | usage => "pod metrics"

end ReportKind

namespace Owner

/-- A part of an owner. -/
def part (o : Owner) (p : Part) : Owner := { o with parts := o.parts ++ [p] }

/-- The text of an owner in a message. The text of a document in it is made by calls within calls,
which are taken to have room without limit. -/
def text (o : Owner) : String :=
  let identity := match o.identity with
    | some (ns, name) => " " ++ ns.plain ++ "/" ++ name.plain
    | none => ""
  o.kind.text ++ identity ++ String.join (o.parts.map Part.text)

end Owner

namespace SourceError

/-- The message for an error. For the faults of a record it names the document, and the faults
follow it. -/
def message : SourceError → String
  | notItem found => "Expected PodWithMetrics, but got " ++ found.kind
  | notReport kind found => "Expected " ++ kind.text ++ " mapping, but got " ++ found.kind
  | notSection owner key found =>
    owner.text ++ ": expected mapping for " ++ Text.quote key ++ ", but got " ++ found.kind
  | notList owner key found =>
    owner.text ++ ": expected list for " ++ Text.quote key ++ ", but got " ++ found.kind
  | notEntry owner key index found =>
    owner.text ++ ": expected mapping for " ++ key ++ "[" ++ Text.numeral index
      ++ "], but got " ++ found.kind
  | notResources owner found =>
    owner.text ++ ": expected resource mapping, but got " ++ found.kind
  | badQuantity owner refusal => owner.text ++ ": " ++ refusal.message
  | illTyped owner _ _ => owner.text ++ ": "

end SourceError

namespace Failure

/-- The failure to read a part of an owner, a refused amount being an error of the owner. -/
def blameRefusal (owner : Owner) : Failure → Failure
  | refused r => unreadable (.badQuantity owner r)
  | f => f

/-- The failure to read an owner, the faults of a record being an error of the owner. -/
def blameFaults (owner : Owner) : Failure → Failure
  | invalid record faults => unreadable (.illTyped owner record faults)
  | f => f

end Failure

end PodTable
