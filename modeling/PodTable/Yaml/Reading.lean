import PodTable.Document
import PodTable.Yaml.Binary
import PodTable.Yaml.Merge
import PodTable.Yaml.Node
import PodTable.Yaml.Number

/-!
# Reading documents

The document that a text holds. A scalar is read where it is met. A collection is met empty, and
filled when all collections met before it are filled, so that defects on an outer level come first
and a collection may hold itself.

A scalar may be a mapping that holds it under the mark of a value. The entries of a mapping are
those that it merges and then its own, and the last of equal keys counts. Only texts are kept as
keys, and a collection cannot be a key.

A date, a set and a list of pairs are read as an empty list, which stands for any value that no
setting can have. As a collection may hold itself, a document is read to some depth only, below
which collections are empty.
-/

namespace PodTable

namespace Yaml

open Text (Codes Wording)

/-! ### Scalars -/

/-- What stands for a value that no setting can have. -/
def opaqueValue : Document Wording := .list []

/-- The truth value that a word denotes. -/
def flag (text : Codes) : Except Defect (Document Wording) :=
  let ns := Text.lower text
  let word := String.ofList ns.chars
  if wordsForTrue.contains word then .ok (.bool true)
  else if wordsForFalse.contains word then .ok (.bool false)
  else .error (.noFlag ns)

/-- Whether there is the date that a text denotes. -/
def moment (text : Codes) : Except Defect (Document Wording) :=
  match Moment.ofText? (withoutLineFeed text.chars) with
  | some m =>
    match m.fault? with
    | some reason => .error (.noDate reason)
    | none => .ok opaqueValue
  | none => .error .noMoment

/-- The text that binary data holds. -/
def binary (text : Codes) : Except Defect (Document Wording) :=
  (wellFormed (bytes? text)).map (fun bytes => .text (.ofBytes bytes))

/-- The document of a scalar. -/
def scalarDocument : Tag → Codes → Except Defect (Document Wording)
  | .null, _ => .ok .null
  | .flag, text => flag text
  | .integer, text => (integer text).map .int
  | .float, text => (float text).map .float
  | .moment, text => moment text
  | .binary, text => binary text
  | .text, text => .ok (.text (.ofCodes text))
  | _, _ => .error .malformed

namespace Graph

/-- The text of a node that is a scalar or a mapping that holds one under the mark of a value, with
room for so many mappings. -/
def text (g : Graph) (room : Nat) (i : NodeId) : Except Defect Codes :=
  match g.content i with
  | .scalar text => .ok text
  | .sequence _ => .error .malformed
  | .mapping entries =>
    match entries.find? (fun e => g.tag e.1 == .value), room with
    | some e, room + 1 => g.text room e.2
    | some _, 0 => .error .tooDeep
    | none, _ => .error .malformed

/-- Whether a node is a scalar itself. -/
def isScalar (g : Graph) (i : NodeId) : Bool :=
  match g.content i with
  | .scalar _ => true
  | _ => false

/-- The document of a node that is a scalar or stands for one. -/
def scalar (g : Graph) (room : Room) (i : NodeId) : Except Defect (Document Wording) := do
  let text ← g.text room.marks i
  if g.tag i == .moment && !g.isScalar i then .error .structuredMoment
  else scalarDocument (g.tag i) text

end Graph

/-! ### Collections -/

/-- The value of a node: the document of a scalar or of binary data, or the collection that is
filled from a node. -/
inductive Value where
  | leaf (document : Document Wording)
  | data (document : Document Wording)
  | collection (node : NodeId)

/-- What a collection is filled with. -/
inductive Filling where
  | items (values : List Value)
  | entries (entries : List (Value × Value))

namespace Tag

/-- Whether nodes of a kind are collections. -/
def isCollection : Tag → Bool
  | sequence => true
  | mapping => true
  | set => true
  | pairs => true
  | orderedMapping => true
  | _ => false

end Tag

/-- The state of reading values: the room, the graph, the values of the nodes met, the collections
that are filled, and those that are not, in the order in which they were met. -/
structure ValueReader where
  room : Room
  graph : Graph
  values : List (NodeId × Value) := []
  fillings : List (NodeId × Filling) := []
  waiting : List NodeId := []

namespace ValueReader

/-- Meet a node. -/
def meet (i : NodeId) (s : ValueReader) : Except Defect (Value × ValueReader) :=
  match s.values.lookup i with
  | some v => .ok (v, s)
  | none =>
    let keep (v : Value) (s : ValueReader) := (v, { s with values := (i, v) :: s.values })
    let tag := s.graph.tag i
    if tag.isCollection then
      .ok (keep (.collection i) { s with waiting := s.waiting ++ [i] })
    else if tag == .merge || tag == .value || tag == .unknown then .error .malformed
    else
      (s.graph.scalar s.room i).map (fun d => keep (if tag == .binary then .data d else .leaf d) s)

/-- Meet nodes in order. -/
def meetAll : List NodeId → ValueReader → Except Defect (List Value × ValueReader)
  | [], s => .ok ([], s)
  | i :: is, s => do
    let (v, s) ← s.meet i
    let (vs, s) ← meetAll is s
    .ok (v :: vs, s)

/-- Meet the key and then the value of each entry. The keys of a mapping are no collections. -/
def meetEntries (isMapping : Bool) :
    List (NodeId × NodeId) → ValueReader → Except Defect (List (Value × Value) × ValueReader)
  | [], s => .ok ([], s)
  | (i, j) :: es, s => do
    let (k, s) ← s.meet i
    match isMapping, k with
    | true, .collection _ => .error .malformed
    | _, _ =>
      let (v, s) ← s.meet j
      let (ps, s) ← meetEntries isMapping es s
      .ok ((k, v) :: ps, s)

/-- Meet the key and the value of each mapping in a list, which has one entry. -/
def meetPairs : List NodeId → ValueReader → Except Defect ValueReader
  | [], s => .ok s
  | i :: is, s =>
    match s.graph.content i with
    | .mapping [e] => do
      let (_, s) ← s.meetEntries false [e]
      s.meetPairs is
    | _ => .error .malformed

/-- Fill a collection. -/
def fill (i : NodeId) (s : ValueReader) : Except Defect ValueReader :=
  let keep (f : Filling) (s : ValueReader) := { s with fillings := (i, f) :: s.fillings }
  match s.graph.tag i, s.graph.content i with
  | .sequence, .sequence items => (s.meetAll items).map (fun (vs, s) => keep (.items vs) s)
  | .pairs, .sequence items => s.meetPairs items
  | .orderedMapping, .sequence items => s.meetPairs items
  | .sequence, _ => .error .malformed
  | .pairs, _ => .error .malformed
  | .orderedMapping, _ => .error .malformed
  | _, .mapping _ => do
    let g ← s.graph.merge s.room i
    let (es, s) ← meetEntries true (g.entries i) { s with graph := g }
    .ok (keep (.entries es) s)
  | _, _ => .error .malformed

/-- Fill the collections that wait. The fuel is at least the number of nodes, each of which waits
at most once. -/
def fillAll : Nat → ValueReader → Except Defect ValueReader
  | 0, s => .ok s
  | fuel + 1, s =>
    match s.waiting with
    | [] => .ok s
    | i :: is => do
      let s ← fill i { s with waiting := is }
      s.fillAll fuel

/-- The entry of an object for a key and the document of its value, if the key is a text. Binary
data that holds a text is none. -/
def entry? (k : Value) (d : Document Wording) : Option (String × Document Wording) :=
  match k with
  | .leaf (.text (.proper s)) => some (s, d)
  | _ => none

/-- The document of a value, whose collections are empty below a depth. -/
def document (s : ValueReader) : Nat → Value → Document Wording
  | _, .leaf d => d
  | _, .data d => d
  | 0, .collection i => if s.graph.tag i == .mapping then .object [] else .list []
  | depth + 1, .collection i =>
    match s.graph.tag i, s.fillings.lookup i with
    | .mapping, some (.entries es) =>
      .object (Document.ofEntries (es.filterMap (fun (k, v) => entry? k (s.document depth v))))
    | .sequence, some (.items vs) => .list (vs.map (s.document depth))
    | _, _ => opaqueValue

end ValueReader

/-- The document that a text holds, whose collections are empty below a depth. -/
def read (room : Room) (depth : Nat) (text : String) : Except Defect (Document Wording) := do
  let (i, g) ← node room text
  let (v, s) ← ValueReader.meet i { room := room, graph := g }
  let s ← s.fillAll g.size
  .ok (s.document depth v)

end Yaml

end PodTable
