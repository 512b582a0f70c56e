import PodTable.Document
import PodTable.Pod.Basic

/-!
# Totals of resources

The requests of a pod are the sum over its regular containers and its init containers, and so
are its limits. Each of the two groups is all or nothing: if one container of the group has
declared nothing, the sum of the group is zero. A container that declares limits only requests
its limits.

An `Accumulator` adds amounts one by one and stops at the first container without an amount.
-/

namespace PodTable

/-- An amount of processing and an amount of memory. -/
structure Amount where
  cpu : Int := 0
  memory : Int := 0
deriving DecidableEq, Repr

/-- The requests and the limits of a pod. -/
structure Totals where
  requests : Amount
  limits : Amount
deriving DecidableEq, Repr

namespace Amount

/-- The sum of two amounts. -/
def add (a b : Amount) : Amount := ⟨a.cpu + b.cpu, a.memory + b.memory⟩

instance : Add Amount := ⟨add⟩

/-- Whether both parts of an amount are zero. -/
def isZero (a : Amount) : Bool := a.cpu == 0 && a.memory == 0

/-- The sum of amounts. -/
def sum (as : List Amount) : Amount := as.foldl (· + ·) {}

/-- The part of an amount that an object holds under a key, zero if it holds none. -/
def part (es : Entries) (key : String) : Int :=
  match Document.lookup? es key with
  | some (.int i) => i
  | _ => 0

/-- The amount that an object stands for. -/
def ofDocument? : Document → Option Amount
  | .object es => some ⟨part es "cpu", part es "memory"⟩
  | _ => none

/-- The sum of amounts given as objects, or the first document that is no amount. -/
def sumDocuments (ds : List Document) : Except Document Amount :=
  ds.foldlM
    (fun a d =>
      match ofDocument? d with
      | some b => .ok (a + b)
      | none => .error d)
    {}

/-- The message for a document that cannot be added to an amount. -/
def addendMessage (d : Document) : String :=
  "unsupported operand type(s) for +: 'ResourceQuantity' and '" ++ d.kind ++ "'"

/-- The record of an amount. -/
def encode (a : Amount) : Document := .object [("cpu", .int a.cpu), ("memory", .int a.memory)]

end Amount

namespace Totals

/-- The record of totals. -/
def encode (t : Totals) : Document :=
  .object [("requests", t.requests.encode), ("limits", t.limits.encode)]

end Totals

/-- A sum in the making. -/
structure Accumulator where
  total : Amount := {}
  stopped : Bool := false
deriving DecidableEq, Repr

namespace Accumulator

/-- Add the amount of a container. Without an amount the sum is zero for good. The answer is
whether the sum is still open. -/
def add (a : Accumulator) (x : Option Amount) : Bool × Accumulator :=
  if a.stopped then (false, a)
  else
    match x with
    | some amount => (true, { a with total := a.total + amount })
    | none => (false, ⟨{}, true⟩)

/-- Add amounts up to the first one that closes the sum. -/
def addUntilStopped (a : Accumulator) : List (Option Amount) → Accumulator
  | [] => a
  | x :: xs =>
    match a.add x with
    | (true, b) => b.addUntilStopped xs
    | (false, b) => b

end Accumulator

namespace Resources

/-- The declared amounts, those not declared counting as zero. -/
def amount (r : Resources) : Amount := ⟨r.cpu.getD 0, r.memory.getD 0⟩

/-- The declared amounts, if anything is declared. -/
def amount? (r : Resources) : Option Amount := if r.isEmpty then none else some r.amount

end Resources

namespace Container

/-- What a container requests: its requests if it declares any, and otherwise its limits. -/
def requested? (c : Container) : Option Amount :=
  match c.requests.amount? with
  | some a => some a
  | none => c.limits.amount?

/-- What a container is limited to. -/
def limited? (c : Container) : Option Amount := c.limits.amount?

/-- The sum of an amount over a group of containers. -/
def groupTotal (amount? : Container → Option Amount) (cs : List Container) : Amount :=
  (Accumulator.addUntilStopped {} (cs.map amount?)).total

end Container

namespace Pod

/-- The sum of an amount over the containers and over the init containers of a pod. -/
def total (amount? : Container → Option Amount) (p : Pod) : Amount :=
  Container.groupTotal amount? p.containers + Container.groupTotal amount? p.initContainers

/-- The requests of a pod. -/
def requests (p : Pod) : Amount := p.total Container.requested?

/-- The limits of a pod. -/
def limits (p : Pod) : Amount := p.total Container.limited?

/-- The requests and the limits of a pod. -/
def totals (p : Pod) : Totals := ⟨p.requests, p.limits⟩

end Pod

end PodTable
